import UsbGadget.Main
import UsbGadget.Proofs.ControlAnswer
import UsbGadget.Proofs.DescriptorStream
import UsbGadget.Proofs.Routing
import UsbGadget.Reaction
import UsbGadget.Proofs.Direction
import UsbGadget.Proofs.LengthFields
import UsbGadget.Proofs.Agreement
import UsbGadget.Proofs.Failure
import UsbGadget.Proofs.Isolation
import UsbGadget.Proofs.Verdict
import UsbGadget.Proofs.Arrivals
import UsbGadget.Proofs.Delivery
import UsbGadget.Proofs.ControlPlane
import UsbGadget.Proofs.SerialLine
import UsbGadget.Proofs.PortStatus
import UsbGadget.Proofs.Selection
import UsbGadget.Proofs.Names
import UsbGadget.Proofs.SerialStream
import UsbGadget.Proofs.Signals
import UsbGadget.Proofs.StringText
import UsbGadget.Proofs.StoreStream
import UsbGadget.Proofs.BillboardFields
import UsbGadget.Proofs.PacketSizes
import UsbGadget.Proofs.TwoStepRead
import UsbGadget.Proofs.InterfaceViews
import UsbGadget.Proofs.JsonRecords
import UsbGadget.Proofs.ByteOrder
import UsbGadget.Proofs.Precedence
import UsbGadget.Proofs.Registration
import UsbGadget.Proofs.TransportLog
import UsbGadget.Proofs.MutationKeys
