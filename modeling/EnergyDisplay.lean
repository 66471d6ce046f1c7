import EnergyDisplay.CounterResetProofs
import EnergyDisplay.RestartProofs
import EnergyDisplay.StaleRestoreProofs
import EnergyDisplay.SummaryDayProofs
import EnergyDisplay.ReconnectProofs
import EnergyDisplay.LastWriterProofs
import EnergyDisplay.HourlyReferenceProofs
import EnergyDisplay.GarageOutageProofs
import EnergyDisplay.WatermarkProofs
import EnergyDisplay.HourStampProofs
import EnergyDisplay.ClientSlotProofs
import EnergyDisplay.BackpressureProofs
import EnergyDisplay.OtaSlotProofs
import EnergyDisplay.OtaAgreementProofs
import EnergyDisplay.LoggingProofs
import EnergyDisplay.LayoutProofs
import EnergyDisplay.GlyphBitmaps
import EnergyDisplay.Lib.Fnv
import EnergyDisplay.Lib.LittleEndian
import EnergyDisplay.Lib.Utf8
import EnergyDisplay.PanicStore
import EnergyDisplay.PanicStoreProofs
import EnergyDisplay.NtpProofs
import EnergyDisplay.CoalescingProofs
import EnergyDisplay.EscapingProofs
import EnergyDisplay.LineWidthProofs
import EnergyDisplay.Formatting
import EnergyDisplay.Renderer
import EnergyDisplay.Lib.Emits
import EnergyDisplay.Lib.Float
import EnergyDisplay.FontTables
import EnergyDisplay.RendererProofs
import EnergyDisplay.TextProofs
import EnergyDisplay.ExactFloats
import EnergyDisplay.GraphProofs
import EnergyDisplay.RenderSafetyProofs
import EnergyDisplay.Lib.CompactJson
import EnergyDisplay.Summary
import EnergyDisplay.ExactWire
import EnergyDisplay.SummaryProofs
import EnergyDisplay.Lib.BinarySearch
import EnergyDisplay.KerningProofs
import EnergyDisplay.Lib.Visitors
import EnergyDisplay.TextDrawing
import EnergyDisplay.CentringProofs
import EnergyDisplay.CroppingProofs
import EnergyDisplay.Allocator
import EnergyDisplay.PanicHardware
import EnergyDisplay.Firmware
import EnergyDisplay.PanicHardwareProofs
import EnergyDisplay.OtaConfinement
import EnergyDisplay.FirmwareProofs
import EnergyDisplay.PanicDeliveryProofs
import EnergyDisplay.LogForwardingProofs
import EnergyDisplay.OtaTrustProofs
import EnergyDisplay.SelectedImageProofs
import EnergyDisplay.Lib.LocalTime
import EnergyDisplay.LocalHourProofs
import EnergyDisplay.EnergyBalanceProofs
import EnergyDisplay.Buttons
import EnergyDisplay.ButtonsProofs
import EnergyDisplay.ToggleProofs
import EnergyDisplay.ClockTask
import EnergyDisplay.ClockTaskProofs
import EnergyDisplay.Household
import EnergyDisplay.MeteredSeriesProofs
import EnergyDisplay.RetainedEnergyProofs
import EnergyDisplay.FloatGraphProofs
import EnergyDisplay.PanelProofs
import EnergyDisplay.FloatSeriesProofs
