import DoorAcs.Codec.Cutting
import DoorAcs.Cpp.Simulation
import DoorAcs.SerialPort.Locks

/-!
# Reading lines

`Serial::readline` and `Serial::readlines` read byte by byte into a buffer of the size they are
given, until they see the end of a line or the buffer is full, or nothing comes in time.

* `Serial.run_readline_eq_ok_iff`: the line that `readline` returns.
* `Serial.run_readlines_eq_ok_iff`: the lines that `readlines` returns.
* `Serial.readline_safe_iff`: `readline` stays within its buffer, whatever is received, iff the
  buffer holds at least one byte and the end of a line. `readlines` always does
  (`Serial.safe_readlines`).
-/

namespace DoorAcs

open Cpp

variable {ω : Type}

namespace Serial

/-! ## The loop -/

/-- The loop of `readline` ends behind `text`. -/
def EndsLine (size : ℕ) (eol text : Str) : Prop :=
  eol.length ≤ text.length ∧ (eol <:+ text ∨ text.length = size)

instance (size : ℕ) (eol text : Str) : Decidable (EndsLine size eol text) :=
  inferInstanceAs (Decidable (_ ∧ _))

variable {win : WinApi ω} {size : ℕ} {eol buffer : Str}

/-- The loop, round by round. -/
theorem run_readlineLoop (s : SerialImpl ω) :
    (readlineLoop win size eol buffer).run s = match (SerialImpl.read win 1).run s with
      | .error e s' => .error e s'
      | .ok [] s' => .ok buffer s'
      | .ok bytes s' =>
        if size < (buffer ++ bytes).length then .error .fault s'
        else if EndsLine size eol (buffer ++ bytes) then .ok (buffer ++ bytes) s'
        else (readlineLoop win size eol (buffer ++ bytes)).run s' := by
  rw [readlineLoop, EStateM.run_bind]
  rcases (SerialImpl.read win 1).run s with ⟨bytes, s'⟩ | ⟨e, s'⟩
  · rcases bytes with _ | ⟨c, bytes⟩
    · rfl
    · dsimp only
      rw [if_neg (List.cons_ne_nil c bytes)]
      by_cases hsize : size < (buffer ++ c :: bytes).length
      · rw [if_pos hsize, if_pos hsize]
        rfl
      rw [if_neg hsize, if_neg hsize]
      by_cases hshort : (buffer ++ c :: bytes).length < eol.length
      · rw [if_pos hshort, if_neg fun h => Nat.not_lt.mpr h.1 hshort]
      rw [if_neg hshort]
      by_cases heol : (buffer ++ c :: bytes).drop ((buffer ++ c :: bytes).length - eol.length) = eol
      · have hsuffix := List.suffix_iff_eq_drop.mpr heol.symm
        rw [if_pos heol, if_pos ⟨Nat.not_lt.mp hshort, .inl hsuffix⟩]
        rfl
      rw [if_neg heol]
      by_cases hfull : (buffer ++ c :: bytes).length = size
      · rw [if_pos hfull, if_pos ⟨Nat.not_lt.mp hshort, .inr hfull⟩]
        rfl
      · rw [if_neg hfull, if_neg]
        rintro ⟨-, h | h⟩
        · exact heol (List.suffix_iff_eq_drop.mp h).symm
        · exact hfull h
  · rfl

/-! ## What is received -/

/-- Single reads take the characters of `text` one after the other. -/
def Delivers (win : WinApi ω) : SerialImpl ω → Str → SerialImpl ω → Prop :=
  Trace fun s c s' => (SerialImpl.read win 1).run s = .ok [c] s'

variable {s s' : SerialImpl ω} {line : Str}

/-- A single read takes one character or none. -/
theorem length_le_one_of_run_read (hwin : win.ReadsAtMost) {s s' : SerialImpl ω} {bytes : Str}
    (h : (SerialImpl.read win 1).run s = .ok bytes s') : bytes.length ≤ 1 := by
  rw [SerialImpl.read, SerialImpl.onOpenPort, SerialImpl.run_get_bind] at h
  split_ifs at h
  · rcases hread : (win.readFile s.fd (.ofNat 1)).run s.os with ⟨result, os⟩
    rw [SerialImpl.io, SerialImpl.run_call_bind hread] at h
    cases result with
    | error code => cases h
    | ok taken =>
      cases h
      exact hwin _ _ _ _ _ hread
  · cases h

/-- Behind `buffer`, the loop of `readline` takes the characters of `text` and is left in `s'`: they
fit in, it ends behind none of them but the last, and behind that one it ends or sees a timeout. -/
structure TakesLine (win : WinApi ω) (size : ℕ) (eol buffer : Str) (s : SerialImpl ω) (text : Str)
    (s₁ s' : SerialImpl ω) : Prop where
  delivers : Delivers win s text s₁
  fits : (buffer ++ text).length ≤ size
  goesOn : ∀ p q, text = p ++ q → p ≠ [] → q ≠ [] → ¬ EndsLine size eol (buffer ++ p)
  ends : if text ≠ [] ∧ EndsLine size eol (buffer ++ text) then s' = s₁
    else (SerialImpl.read win 1).run s₁ = .ok [] s'

/-- Nothing comes in time. -/
theorem takesLine_nil (hbuffer : buffer.length ≤ size)
    (hread : (SerialImpl.read win 1).run s = .ok [] s') :
    TakesLine win size eol buffer s [] s s' where
  delivers := .nil s
  fits := by rwa [List.append_nil]
  goesOn p q hpq hp := absurd (List.append_eq_nil_iff.mp hpq.symm).1 hp
  ends := by rwa [if_neg fun h => h.1 rfl]

/-- The loop ends behind the next character. -/
theorem takesLine_singleton {c : Char} (hfits : (buffer ++ [c]).length ≤ size)
    (hread : (SerialImpl.read win 1).run s = .ok [c] s')
    (hends : EndsLine size eol (buffer ++ [c])) : TakesLine win size eol buffer s [c] s' s' where
  delivers := .cons hread (.nil s')
  fits := hfits
  goesOn p q hpq hp hq := by
    have hlength := congrArg List.length hpq
    have hp := List.length_pos_iff.mpr hp
    have hq := List.length_pos_iff.mpr hq
    rw [List.length_append, List.length_singleton] at hlength
    omega
  ends := by rw [if_pos ⟨List.cons_ne_nil c [], hends⟩]

/-- The loop goes on behind the next character. -/
theorem takesLine_cons_iff {c : Char} {text : Str} {s₁ s₂ : SerialImpl ω}
    (hread : (SerialImpl.read win 1).run s = .ok [c] s₂)
    (hgoesOn : ¬ EndsLine size eol (buffer ++ [c])) :
    TakesLine win size eol buffer s (c :: text) s₁ s' ↔
      TakesLine win size eol (buffer ++ [c]) s₂ text s₁ s' := by
  -- a text that ends the loop is not empty
  have hends : (c :: text ≠ [] ∧ EndsLine size eol (buffer ++ c :: text)) ↔
      text ≠ [] ∧ EndsLine size eol (buffer ++ [c] ++ text) := by
    rw [← List.append_cons]
    refine ⟨fun h => ⟨?_, h.2⟩, fun h => ⟨List.cons_ne_nil c text, h.2⟩⟩
    rintro rfl
    exact hgoesOn h.2
  constructor
  · intro h
    obtain ⟨hdelivers, hfits, hproper, hlast⟩ := h
    rw [if_congr hends rfl rfl] at hlast
    rw [List.append_cons] at hfits
    cases hdelivers with
    | cons hread' hrest =>
      cases hread.symm.trans hread'
      refine ⟨hrest, hfits, fun p q hpq _ hq => ?_, hlast⟩
      rw [← List.append_cons]
      exact hproper (c :: p) q (congrArg (c :: ·) hpq) (List.cons_ne_nil c p) hq
  · intro h
    refine ⟨.cons hread h.delivers, ?_, fun p q hpq hp hq => ?_, ?_⟩
    · rw [List.append_cons]
      exact h.fits
    · obtain ⟨rfl, -⟩ | ⟨p, rfl, htext⟩ := List.cons_eq_append_iff.mp hpq
      · exact absurd rfl hp
      by_cases hp' : p = []
      · rwa [hp']
      · rw [List.append_cons]
        exact h.goesOn p q htext hp' hq
    · rw [if_congr hends rfl rfl]
      exact h.ends

/-- What the loop returns, it has taken. -/
theorem exists_of_run_readlineLoop (hwin : win.ReadsAtMost) (hbuffer : buffer.length ≤ size)
    (h : (readlineLoop win size eol buffer).run s = .ok line s') :
    ∃ text s₁, line = buffer ++ text ∧ TakesLine win size eol buffer s text s₁ s' := by
  -- the induction is on the room in the buffer
  induction hroom : size - buffer.length using Nat.strongRecOn generalizing buffer s with
  | _ room ih =>
    rw [run_readlineLoop] at h
    cases hread : (SerialImpl.read win 1).run s with
    | error e s₁ =>
      rw [hread] at h
      cases h
    | ok bytes s₁ =>
      rw [hread] at h
      cases bytes with
      | nil =>
        cases h
        exact ⟨[], s, (List.append_nil _).symm, takesLine_nil hbuffer hread⟩
      | cons c bytes =>
        obtain rfl : bytes = [] := by
          simpa using length_le_one_of_run_read hwin hread
        dsimp only at h
        split_ifs at h with hsize hends
        · cases h
          exact ⟨[c], s', rfl, takesLine_singleton (Nat.not_lt.mp hsize) hread hends⟩
        · have hroom' : size - (buffer ++ [c]).length < room := by
            rw [List.length_append, List.length_singleton] at hsize ⊢
            omega
          obtain ⟨text, s₂, rfl, htakes⟩ := ih _ hroom' (Nat.not_lt.mp hsize) h rfl
          exact ⟨c :: text, s₂, List.append_assoc .., (takesLine_cons_iff hread hends).mpr htakes⟩

/-- What the loop takes, it returns. -/
theorem TakesLine.run_readlineLoop {text : Str} {s₁ : SerialImpl ω}
    (h : TakesLine win size eol buffer s text s₁ s') :
    (readlineLoop win size eol buffer).run s = .ok (buffer ++ text) s' := by
  induction text generalizing buffer s with
  | nil =>
    obtain ⟨hdelivers, -, -, hlast⟩ := h
    cases hdelivers
    rw [if_neg fun h => h.1 rfl] at hlast
    rw [Serial.run_readlineLoop, hlast, List.append_nil]
  | cons c text ih =>
    have hfits := h.fits
    rw [List.append_cons, List.length_append] at hfits
    cases h.delivers with
    | @cons _ _ s₂ _ _ hread hrest =>
      rw [Serial.run_readlineLoop, hread]
      dsimp only
      rw [if_neg (Nat.not_lt.mpr (Nat.le_trans (Nat.le_add_right _ _) hfits))]
      by_cases hends : EndsLine size eol (buffer ++ [c])
      · -- the line ends with this character
        obtain rfl : text = [] := by
          by_contra htext
          exact h.goesOn [c] text rfl (List.cons_ne_nil c []) htext hends
        have hlast := h.ends
        rw [if_pos ⟨List.cons_ne_nil c [], hends⟩] at hlast
        cases hrest
        rw [if_pos hends, hlast]
      · rw [if_neg hends, ih ((takesLine_cons_iff hread hends).mp h), ← List.append_cons]

/-- `readline` returns what it receives while it holds the read mutex, up to the first end of a line
or up to a timeout. -/
theorem run_readline_eq_ok_iff (hwin : win.ReadsAtMost) :
    (readline win size eol).run s = .ok line s' ↔
      ∃ s₀ s₁ s₂, (SerialImpl.readLock win).run s = .ok () s₀ ∧ Delivers win s₀ line s₁ ∧
        line.length ≤ size ∧
        (∀ p q, line = p ++ q → p ≠ [] → q ≠ [] → ¬ EndsLine size eol p) ∧
        (if line ≠ [] ∧ EndsLine size eol line then s₂ = s₁
          else (SerialImpl.read win 1).run s₁ = .ok [] s₂) ∧
        (SerialImpl.readUnlock : Prog Exception (SerialImpl ω) Unit).run s₂ = .ok () s' := by
  rw [readline, scopedReadLock, Prog.run_inScope_eq_ok]
  constructor
  · rintro ⟨s₀, s₂, hlock, hloop, hunlock⟩
    obtain ⟨text, s₁, rfl, h⟩ := exists_of_run_readlineLoop hwin (Nat.zero_le _) hloop
    exact ⟨s₀, s₁, s₂, hlock, h.delivers, h.fits, h.goesOn, h.ends, hunlock⟩
  · rintro ⟨s₀, s₁, s₂, hlock, hdelivers, hsize, hfirst, hlast, hunlock⟩
    have htakes : TakesLine win size eol [] s₀ line s₁ s₂ := ⟨hdelivers, hsize, hfirst, hlast⟩
    exact ⟨s₀, s₂, hlock, htakes.run_readlineLoop, hunlock⟩

/-! ## The buffer -/

/-- With room for the end of a line, the loop stays within its buffer. -/
theorem safe_readlineLoop (hwin : win.ReadsAtMost) {I : SerialImpl ω → Prop}
    (hread : Prog.Safe I (SerialImpl.read win 1)) (heol : eol.length ≤ size)
    (hbuffer : buffer.length < size) : Prog.Safe I (readlineLoop win size eol buffer) := by
  -- the induction is on the room in the buffer
  induction hroom : size - buffer.length using Nat.strongRecOn generalizing buffer with
  | _ room ih =>
    rw [readlineLoop]
    refine Prog.safe_bind_of hread (length_le_one_of_run_read hwin) fun bytes hbytes => ?_
    have hnext (hbytes : bytes ≠ []) (hsize : (buffer ++ bytes).length < size) :
        Prog.Safe I (readlineLoop win size eol (buffer ++ bytes)) := by
      refine ih _ ?_ hsize rfl
      have hpos := List.length_pos_iff.mpr hbytes
      rw [List.length_append] at hsize ⊢
      omega
    split_ifs with hnil hsize hshort heol' hfull
    · exact Prog.safe_pure _
    · rw [List.length_append] at hsize
      omega
    · exact hnext hnil (Nat.lt_of_lt_of_le hshort heol)
    · exact Prog.safe_pure _
    · exact Prog.safe_pure _
    · exact hnext hnil (Nat.lt_of_le_of_ne (Nat.not_lt.mp hsize) hfull)

/-- With room for a byte and for the end of a line, `readline` stays within its buffer, and it
leaves the mutexes as it found them. -/
theorem safe_readline (hwin : win.ReadsAtMost) (hsize : 0 < size) (heol : eol.length ≤ size) :
    Prog.Safe (SerialImpl.Locked 0 0) (readline win size eol) :=
  safe_scopedReadLock
    (safe_readlineLoop hwin (SerialImpl.safe_read 1 Nat.one_pos) heol hsize)

/-- From an open port, each read of one byte takes a character. -/
def NeverDry (win : WinApi ω) : Prop := ∀ fd? os, ∃ c, ((win.readFile fd? 1).run os).1 = .ok [c]

theorem exists_run_read (hwin : NeverDry win) (hopen : s.isOpen = true) :
    ∃ c s', (SerialImpl.read win 1).run s = .ok [c] s' ∧ s'.isOpen = true := by
  obtain ⟨c, hc⟩ := hwin s.fd s.os
  have hread : (win.readFile s.fd (.ofNat 1)).run s.os =
      (.ok [c], ((win.readFile s.fd 1).run s.os).2) := Prod.ext hc rfl
  refine ⟨c, s.behind ((win.readFile s.fd 1).run s.os).2 [.io s.fd (.readFile (.ofNat 1))], ?_,
    hopen⟩
  rw [SerialImpl.read, SerialImpl.onOpenPort, SerialImpl.run_get_bind, if_pos hopen, SerialImpl.io,
    SerialImpl.run_call_bind hread]
  rfl

/-- Without room for the end of a line, or for anything, the loop leaves its buffer unless nothing
more comes. -/
theorem run_readlineLoop_of_neverDry (hwin : NeverDry win) (hsize : size = 0 ∨ size < eol.length)
    (hopen : s.isOpen = true) (hbuffer : buffer.length ≤ size) :
    ∃ s', (readlineLoop win size eol buffer).run s = .error .fault s' := by
  obtain ⟨c, s₁, hread, hopen₁⟩ := exists_run_read hwin hopen
  induction hroom : size - buffer.length generalizing buffer s c s₁ with
  | zero =>
    refine ⟨s₁, ?_⟩
    rw [run_readlineLoop, hread]
    dsimp only
    rw [if_pos]
    rw [List.length_append, List.length_singleton]
    omega
  | succ room ih =>
    have hlength : (buffer ++ [c]).length = buffer.length + 1 := List.length_append
    obtain ⟨c', s₂, hread₂, hopen₂⟩ := exists_run_read hwin hopen₁
    obtain ⟨s', hs'⟩ := ih hopen₁ (hlength.trans_le (by omega)) c' s₂ hread₂ hopen₂
      (by rw [hlength]; omega)
    refine ⟨s', ?_⟩
    rw [run_readlineLoop, hread]
    dsimp only
    rw [if_neg (by omega), if_neg, hs']
    intro hends
    have heol := hends.1
    omega

/-! ## Several lines -/

/-- What is in the buffer was cut into the lines and what follows `startOfLine`. -/
structure Reading (eol buffer : Str) (startOfLine : ℕ) (lines : List Str) : Prop where
  start_le : startOfLine ≤ buffer.length
  cut : Framing.Cut (eol <:+ ·) buffer lines (buffer.drop startOfLine)

variable {startOfLine : ℕ} {lines result : List Str}

theorem Reading.drop_concat (h : Reading eol buffer startOfLine lines) (c : Char) :
    (buffer ++ [c]).drop startOfLine = buffer.drop startOfLine ++ [c] :=
  List.drop_append_of_le_length h.start_le

/-- A character that does not end a line. -/
theorem Reading.concat_of_not (h : Reading eol buffer startOfLine lines) {c : Char}
    (hc : ¬ eol <:+ buffer ++ [c]) : Reading eol (buffer ++ [c]) startOfLine lines := by
  refine ⟨h.start_le.trans (List.prefix_append buffer [c]).length_le, ?_⟩
  rw [h.drop_concat]
  exact h.cut.concat_of_not hc

theorem Reading.findLine (h : Reading eol buffer startOfLine lines) (c : Char) :
    let found := findLine eol (buffer ++ [c]) startOfLine lines
    Reading eol (buffer ++ [c]) found.1 found.2 := by
  dsimp only [Serial.findLine]
  split_ifs with heol
  · refine ⟨Nat.le_refl _, ?_⟩
    rw [List.drop_length, h.drop_concat]
    exact h.cut.concat_of (List.suffix_iff_eq_drop.mpr heol.symm)
  · exact h.concat_of_not fun hsuffix => heol (List.suffix_iff_eq_drop.mp hsuffix).symm

theorem Reading.isCut (h : Reading eol buffer startOfLine lines) :
    Framing.IsCut (eol <:+ ·) buffer (pushRest buffer startOfLine lines) := by
  have hrest : startOfLine ≠ buffer.length ↔ buffer.drop startOfLine ≠ [] := by
    rw [ne_eq, ne_eq, List.drop_eq_nil_iff]
    have := h.start_le
    omega
  rw [pushRest, if_congr hrest rfl rfl, ite_not]
  exact h.cut.isCut

/-- What `readlines` makes of what it received. A buffer that is full before it could hold the end
of a line is given up. -/
def LinesOf (size : ℕ) (eol text : Str) (lines : List Str) : Prop :=
  if text.length = size ∧ size < eol.length then lines = []
  else Framing.IsCut (eol <:+ ·) text lines

/-- The loop is left at its head with a full buffer only if nothing fits in, or no end of a line. -/
theorem Reading.linesOf_full (h : Reading eol buffer startOfLine lines)
    (hmax : buffer.length = size) (hfull : buffer = [] ∨ size < eol.length) :
    LinesOf size eol buffer lines := by
  rw [LinesOf]
  split_ifs with hsize
  · by_contra hlines
    have heol := (h.cut.of_ne_nil hlines).length_le.trans h.cut.flatten_prefix.length_le
    omega
  · obtain rfl : buffer = [] := hfull.resolve_right fun heol => hsize ⟨hmax, heol⟩
    have hcut := h.cut.isCut
    rwa [List.drop_nil, if_pos rfl] at hcut

/-- Behind `buffer`, the loop of `readlines` takes the characters of `text` and is left in `s'`:
with a full buffer, or when nothing comes in time. -/
structure TakesLines (win : WinApi ω) (size : ℕ) (buffer : Str) (s : SerialImpl ω) (text : Str)
    (s₁ s' : SerialImpl ω) : Prop where
  delivers : Delivers win s text s₁
  fits : (buffer ++ text).length ≤ size
  ends : if (buffer ++ text).length = size then s' = s₁
    else (SerialImpl.read win 1).run s₁ = .ok [] s'

theorem takesLines_cons_iff {c : Char} {text : Str} {s₁ s₂ : SerialImpl ω}
    (hread : (SerialImpl.read win 1).run s = .ok [c] s₂) :
    TakesLines win size buffer s (c :: text) s₁ s' ↔
      TakesLines win size (buffer ++ [c]) s₂ text s₁ s' := by
  constructor
  · rintro ⟨hdelivers, hfits, hends⟩
    rw [List.append_cons] at hfits hends
    cases hdelivers with
    | cons hread' hrest =>
      cases hread.symm.trans hread'
      exact ⟨hrest, hfits, hends⟩
  · rintro ⟨hdelivers, hfits, hends⟩
    rw [← List.append_cons] at hfits hends
    exact ⟨.cons hread hdelivers, hfits, hends⟩

/-- A round of the loop that takes a character. Short of the length of an end of a line there is
nothing to be found. -/
theorem run_readlinesLoop_of_read {c : Char} {s₂ : SerialImpl ω}
    (hread : (SerialImpl.read win 1).run s = .ok [c] s₂) (hfits : (buffer ++ [c]).length ≤ size) :
    let found := findLine eol (buffer ++ [c]) startOfLine lines
    (readlinesLoop win size eol buffer startOfLine lines).run s =
      if (buffer ++ [c]).length = size ∧ eol.length ≤ size then
        .ok (pushRest (buffer ++ [c]) found.1 found.2) s₂
      else (readlinesLoop win size eol (buffer ++ [c]) found.1 found.2).run s₂ := by
  intro found
  have hroom : buffer.length < size := by
    rw [List.length_append, List.length_singleton] at hfits
    omega
  rw [readlinesLoop, if_pos hroom, Prog.run_bind_of_ok hread, if_neg (List.cons_ne_nil c []),
    if_neg (Nat.not_lt.mpr hfits)]
  by_cases hshort : (buffer ++ [c]).length < eol.length
  · have hfound : found = (startOfLine, lines) := by
      refine if_neg fun heol => ?_
      have hlength := (List.suffix_iff_eq_drop.mpr heol.symm).length_le
      omega
    rw [if_pos hshort, if_neg (by omega), hfound]
  · rw [if_neg hshort]
    by_cases hmax : (buffer ++ [c]).length = size
    · rw [if_pos hmax, if_pos ⟨hmax, by omega⟩]
      rfl
    · rw [if_neg hmax, if_neg fun h => hmax h.1]

/-- The loop that is left when nothing comes in time. -/
theorem run_readlinesLoop_of_timeout (hsize : buffer.length < size)
    (hread : (SerialImpl.read win 1).run s = .ok [] s') :
    (readlinesLoop win size eol buffer startOfLine lines).run s =
      .ok (pushRest buffer startOfLine lines) s' := by
  rw [readlinesLoop, if_pos hsize, Prog.run_bind_of_ok hread, if_pos rfl]
  rfl

/-- The loop that is left at its head. -/
theorem run_readlinesLoop_of_full (hsize : buffer.length = size) :
    (readlinesLoop win size eol buffer startOfLine lines).run s = .ok lines s := by
  rw [readlinesLoop, if_neg (Nat.not_lt.mpr (Nat.le_of_eq hsize.symm))]
  rfl

/-- What the loop makes of the text when it is left. -/
theorem Reading.linesOf (h : Reading eol buffer startOfLine lines)
    (hsize : buffer.length = size → eol.length ≤ size) :
    LinesOf size eol buffer (pushRest buffer startOfLine lines) := by
  rw [LinesOf, if_neg fun hfull => Nat.not_lt.mpr (hsize hfull.1) hfull.2]
  exact h.isCut

/-- The loop cuts what it receives until the buffer is full or nothing comes in time. -/
theorem exists_of_run_readlinesLoop (hwin : win.ReadsAtMost)
    (hreading : Reading eol buffer startOfLine lines) (hbuffer : buffer.length ≤ size)
    (hfull : buffer.length = size → buffer = [] ∨ size < eol.length)
    (h : (readlinesLoop win size eol buffer startOfLine lines).run s = .ok result s') :
    ∃ text s₁, TakesLines win size buffer s text s₁ s' ∧
      LinesOf size eol (buffer ++ text) result := by
  -- the induction is on the room in the buffer
  induction hroom : size - buffer.length using Nat.strongRecOn
    generalizing buffer startOfLine lines s with
  | _ room ih =>
    by_cases hsize : buffer.length = size
    · cases (run_readlinesLoop_of_full hsize).symm.trans h
      refine ⟨[], s', ⟨.nil s', ?_, ?_⟩, ?_⟩ <;> rw [List.append_nil]
      · exact hbuffer
      · rw [if_pos hsize]
      · exact hreading.linesOf_full hsize (hfull hsize)
    have hlt := Nat.lt_of_le_of_ne hbuffer hsize
    cases hread : (SerialImpl.read win 1).run s with
    | error e s₁ =>
      rw [readlinesLoop, if_pos hlt, Prog.run_bind_of_error hread] at h
      cases h
    | ok bytes s₁ =>
      have hlength := length_le_one_of_run_read hwin hread
      cases bytes with
      | nil =>
        cases (run_readlinesLoop_of_timeout hlt hread).symm.trans h
        refine ⟨[], s, ⟨.nil s, ?_, ?_⟩, ?_⟩ <;> rw [List.append_nil]
        · exact hbuffer
        · rwa [if_neg hsize]
        · exact hreading.linesOf fun hfull => absurd hfull hsize
      | cons c bytes =>
        obtain rfl : bytes = [] := by simpa using hlength
        have hroom' : (buffer ++ [c]).length ≤ size ∧ size - (buffer ++ [c]).length < room := by
          rw [List.length_append, List.length_singleton]
          omega
        rw [run_readlinesLoop_of_read hread hroom'.1] at h
        split_ifs at h with hend
        · cases h
          refine ⟨[c], s', ⟨.cons hread (.nil s'), hroom'.1, ?_⟩, ?_⟩
          · rw [if_pos hend.1]
          · exact (hreading.findLine c).linesOf fun _ => hend.2
        · obtain ⟨text, s₂, htakes, hlines⟩ := ih _ hroom'.2 (hreading.findLine c) hroom'.1
            (fun hmax => .inr (by omega)) h rfl
          refine ⟨c :: text, s₂, (takesLines_cons_iff hread).mpr htakes, ?_⟩
          rwa [List.append_cons]

/-- What the loop is given, it cuts. -/
theorem TakesLines.exists_run_readlinesLoop {text : Str} {s₁ : SerialImpl ω}
    (h : TakesLines win size buffer s text s₁ s')
    (hreading : Reading eol buffer startOfLine lines)
    (hfull : buffer.length = size → buffer = [] ∨ size < eol.length) :
    ∃ result, (readlinesLoop win size eol buffer startOfLine lines).run s = .ok result s' ∧
      LinesOf size eol (buffer ++ text) result := by
  induction text generalizing buffer startOfLine lines s with
  | nil =>
    obtain ⟨hdelivers, hsize, hends⟩ := h
    rw [List.append_nil] at hsize hends ⊢
    cases hdelivers
    split_ifs at hends with hmax
    · rw [hends]
      exact ⟨lines, run_readlinesLoop_of_full hmax, hreading.linesOf_full hmax (hfull hmax)⟩
    · exact ⟨_, run_readlinesLoop_of_timeout (Nat.lt_of_le_of_ne hsize hmax) hends,
        hreading.linesOf fun hfull => absurd hfull hmax⟩
  | cons c text ih =>
    cases h.delivers with
    | cons hread hrest =>
      have h := (takesLines_cons_iff hread).mp h
      have hfits := h.fits
      rw [List.length_append] at hfits
      rw [run_readlinesLoop_of_read hread (Nat.le_trans (Nat.le_add_right _ _) hfits),
        List.append_cons buffer c text]
      split_ifs with hend
      · -- nothing more fits in
        obtain rfl : text = [] := List.length_eq_zero_iff.mp (by omega)
        have hends := h.ends
        rw [List.append_nil, if_pos hend.1] at hends
        cases hrest
        rw [List.append_nil, hends]
        exact ⟨_, rfl, (hreading.findLine c).linesOf fun _ => hend.2⟩
      · exact ih h (hreading.findLine c) fun hmax => .inr (by omega)

theorem LinesOf.eq {text : Str} {lines' : List Str} (h : LinesOf size eol text lines)
    (h' : LinesOf size eol text lines') : lines = lines' := by
  rw [LinesOf] at h h'
  split_ifs at h h' with hsize
  · rw [h, h']
  · exact h.eq h'

/-- `readlines` cuts what it receives while it holds the read mutex behind each end of a line, until
its buffer is full or nothing comes in time. -/
theorem run_readlines_eq_ok_iff (hwin : win.ReadsAtMost) :
    (readlines win size eol).run s = .ok lines s' ↔
      ∃ s₀ text s₁ s₂, (SerialImpl.readLock win).run s = .ok () s₀ ∧ Delivers win s₀ text s₁ ∧
        text.length ≤ size ∧
        (if text.length = size then s₂ = s₁ else (SerialImpl.read win 1).run s₁ = .ok [] s₂) ∧
        LinesOf size eol text lines ∧
        (SerialImpl.readUnlock : Prog Exception (SerialImpl ω) Unit).run s₂ = .ok () s' := by
  have hreading : Reading eol [] 0 [] := ⟨Nat.le_refl 0, Framing.cut_nil⟩
  rw [readlines, scopedReadLock, Prog.run_inScope_eq_ok]
  constructor
  · rintro ⟨s₀, s₂, hlock, hloop, hunlock⟩
    obtain ⟨text, s₁, htakes, hlines⟩ := exists_of_run_readlinesLoop hwin hreading
      (Nat.zero_le size) (fun _ => .inl rfl) hloop
    exact ⟨s₀, text, s₁, s₂, hlock, htakes.delivers, htakes.fits, htakes.ends, hlines, hunlock⟩
  · rintro ⟨s₀, text, s₁, s₂, hlock, hdelivers, hsize, hends, hlines, hunlock⟩
    have htakes : TakesLines win size [] s₀ text s₁ s₂ := ⟨hdelivers, hsize, hends⟩
    obtain ⟨result, hrun, hresult⟩ := htakes.exists_run_readlinesLoop hreading fun _ => .inl rfl
    rw [hresult.eq hlines] at hrun
    exact ⟨s₀, s₂, hlock, hrun, hunlock⟩

end Serial

/-! ## Systems -/

/-- A system that grants every call, and from which every read takes as much as it is asked for. -/
def WinApi.inexhaustible : WinApi (List Str) :=
  { WinApi.granting with readFile := fun _ size => pure (.ok (List.replicate size.toNat 'x')) }

theorem WinApi.inexhaustible_readsAtMost : WinApi.inexhaustible.ReadsAtMost := by
  intro fd? size os bytes os' h
  cases h
  exact Nat.le_of_eq List.length_replicate

/-- A port that is open, with the texts to be read. -/
def SerialImpl.opened (texts : List Str) : SerialImpl (List Str) :=
  { start [] 0 .eightbits .none .one .none texts with fd := some 0, isOpen := true }

namespace Serial

/-- A line is read up to its end. -/
theorem run_readline_granting :
    ∃ s, (readline WinApi.granting 8 ['\n']).run (.opened [['a'], ['\n'], ['b']]) =
      .ok ['a', '\n'] s := by
  refine ⟨?_, (run_readline_eq_ok_iff WinApi.granting_readsAtMost).mpr ⟨_, _, ?_, rfl,
    .cons rfl (.cons rfl (.nil _)), by decide, ?_, ?_, ?_⟩⟩
  -- the states come from the reads
  rotate_left 2
  · intro p q hpq hp hq
    obtain ⟨c, rfl⟩ : ∃ c, p = [c] := by
      have hlength := congrArg List.length hpq
      have hp := List.length_pos_iff.mpr hp
      have hq := List.length_pos_iff.mpr hq
      rw [List.length_append] at hlength
      apply List.length_eq_one_iff.mp
      simp only [List.length_cons, List.length_nil] at hlength
      omega
    cases hpq
    decide
  · rw [if_pos (by decide)]
  · rfl

/-- Two lines, the second of which has no end. -/
theorem run_readlines_granting :
    ∃ s, (readlines WinApi.granting 8 ['\n']).run (.opened [['a'], ['\n'], ['b']]) =
      .ok [['a', '\n'], ['b']] s := by
  refine ⟨?_, (run_readlines_eq_ok_iff WinApi.granting_readsAtMost).mpr ⟨_, _, _, ?_, rfl,
    .cons rfl (.cons rfl (.cons rfl (.nil _))), by decide, ?_, ?_, ?_⟩⟩
  rotate_left 2
  · rw [if_neg (by decide)]
    rfl
  · have hcut : Framing.Cut (['\n'] <:+ ·) ['a', '\n', 'b'] [['a', '\n']] ['b'] :=
      ((Framing.cut_nil.concat_of_not (by decide)).concat_of (by decide)).concat_of_not (by decide)
    exact hcut.isCut
  · rfl

/-- `readline` stays within its buffer, whatever the system does, exactly if the buffer holds at
least a byte and the end of a line. -/
theorem readline_safe_iff {size : ℕ} {eol : Str} :
    (∀ {ω : Type} (win : WinApi ω), win.ReadsAtMost →
      Prog.Safe (SerialImpl.Locked 0 0) (readline win size eol)) ↔
        0 < size ∧ eol.length ≤ size := by
  constructor
  · intro h
    by_contra hsize
    set s := SerialImpl.opened []
    set s₁ := s.behind [] [.waitForSingleObject .read true]
    have hlock : (SerialImpl.readLock WinApi.inexhaustible).run s = .ok () s₁ :=
      SerialImpl.run_claim_of_wait rfl
    have hloop : ∃ s', (readlineLoop WinApi.inexhaustible size eol []).run s₁ = .error .fault s' :=
      run_readlineLoop_of_neverDry (fun _ _ => ⟨'x', rfl⟩) (by omega) rfl (Nat.zero_le size)
    obtain ⟨s', hloop⟩ := hloop
    exact (h WinApi.inexhaustible WinApi.inexhaustible_readsAtMost).ne_fault
      (show s.Locked 0 0 from ⟨trivial, rfl, rfl⟩) (Prog.run_inScope_of_fault hlock hloop)
  · rintro ⟨hsize, heol⟩ ω win hwin
    exact safe_readline hwin hsize heol

end Serial

end DoorAcs
