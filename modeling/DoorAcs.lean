import DoorAcs.AccessControlSystem.Decision
import DoorAcs.AccessControlSystem.Endings
import DoorAcs.AccessControlSystem.Independence
import DoorAcs.AccessControlSystem.OnWindows
import DoorAcs.AccessControlSystem.Reports
import DoorAcs.AccessControlSystem.Synchronisation
import DoorAcs.Codec.Framing
import DoorAcs.Packet.History
import DoorAcs.Packet.ReplyText
import DoorAcs.Packet.Request
import DoorAcs.Reader.WholeReply
import DoorAcs.SerialPort.Lives
