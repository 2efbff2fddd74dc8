import ImuGamepad.Library.Runs
import ImuGamepad.Library.InOrder
import ImuGamepad.Library.Bytes
import ImuGamepad.Library.BitField
import ImuGamepad.Library.Conversion
import ImuGamepad.Library.Clock
import ImuGamepad.Library.Bits
import ImuGamepad.Library.Crc
import ImuGamepad.Library.Hid
import ImuGamepad.Library.Loops
import ImuGamepad.Library.Tlv
import ImuGamepad.Library.Words
import ImuGamepad.Eeprom
import ImuGamepad.Calibration
import ImuGamepad.CalibrationRecord
import ImuGamepad.BusIO
import ImuGamepad.RegisterAccess
import ImuGamepad.RegisterRuns
import ImuGamepad.SensorsEvent
import ImuGamepad.LSM6DS3TRC
import ImuGamepad.LIS3MDL
import ImuGamepad.NimBLE
import ImuGamepad.BleGamepad
import ImuGamepad.EventFlags
import ImuGamepad.ConfigSize
import ImuGamepad.HidDescriptor
import ImuGamepad.GamepadReport
import ImuGamepad.GamepadRuns
import ImuGamepad.AdvertisementData
import ImuGamepad.Advertising
import ImuGamepad.SquareMatrix
import ImuGamepad.AngleApproximation
import ImuGamepad.Orientation
import ImuGamepad.App
import ImuGamepad.NXPFusion
import ImuGamepad.KalmanGain
import ImuGamepad.FusionRuns
import ImuGamepad.FunctionDev
import ImuGamepad.Imu
import ImuGamepad.Application
import ImuGamepad.Steps
import ImuGamepad.StoredSettings
import ImuGamepad.RestoredRanges
import ImuGamepad.SensorBegins
import ImuGamepad.NullPointers
import ImuGamepad.FrameDecode
import ImuGamepad.LoopPipeline
import ImuGamepad.EepromRecords
import ImuGamepad.CalibrationLoaded
import ImuGamepad.RejectedCalls
import ImuGamepad.ConversionRange
import ImuGamepad.FusionInputs
import ImuGamepad.SamplingGate
import ImuGamepad.OverallStatus
import ImuGamepad.ImuStatus
