import NoOS.Drivers.AxiClkgen
import NoOS.Drivers.AxiClkgenReadBack
import NoOS.Drivers.AxiDmac
import NoOS.Drivers.AxiDmacCompletion
import NoOS.Drivers.AxiDmacScatter
import NoOS.Drivers.SdCard
import NoOS.Drivers.SdCardBlocks
import NoOS.Drivers.SdCardCalls
import NoOS.Drivers.SdCardFaults
import NoOS.Drivers.SdCardRead
import NoOS.Drivers.SdCardSpi
import NoOS.Drivers.SdCardTransfers
import NoOS.Drivers.SdCardWrite
import NoOS.Errno
import NoOS.Iio.AttrFrames
import NoOS.Iio.DeviceXml
import NoOS.Iio.Interfaces
import NoOS.Iio.InterfacesXml
import NoOS.Iio.Values
import NoOS.Iio.XmlBlock
import NoOS.Lib.Access
import NoOS.Lib.Arith
import NoOS.Lib.BitField
import NoOS.Lib.BlockRange
import NoOS.Lib.CString
import NoOS.Lib.Nearest
import NoOS.Lib.RingWindow
import NoOS.Lib.Ownership
import NoOS.Lib.Numeral
import NoOS.Lib.PrefixMatcher
import NoOS.Lib.Trace
import NoOS.Lib.Word
import NoOS.Network.AtParser
import NoOS.Network.AtParserBounds
import NoOS.Network.AtParserConn
import NoOS.Network.AtParserFilter
import NoOS.Network.AtParserFrame
import NoOS.Network.AtParserPayload
import NoOS.Network.AtParserReceive
import NoOS.Network.AtParserStep
import NoOS.Network.AtParserStream
import NoOS.Network.MqttRead
import NoOS.Network.TcpSocket
import NoOS.Network.Wifi
import NoOS.Network.WifiBackLog
import NoOS.Network.WifiBuffers
import NoOS.Network.WifiServer
import NoOS.Util.CircularBuffer
import NoOS.Util.CircularBufferFifo
import NoOS.Util.CircularBufferInterrupt
import NoOS.Util.CircularBufferOverrun
import NoOS.Util.CircularBufferPosition
import NoOS.Util.CircularBufferRun
import NoOS.Util.List
import NoOS.Util.ListInvariant
import NoOS.Util.ListRefinement
import NoOS.Util.ListSequence
import NoOS.Util.Util
import NoOS.Drivers.Hmc7044
import NoOS.Drivers.Hmc7044Pll1
import NoOS.Drivers.Hmc7044Pll2
import NoOS.Drivers.Hmc7044Plls
import NoOS.Drivers.Hmc7044Rates
import NoOS.Drivers.Adf4153
import NoOS.Drivers.Adf4350
import NoOS.Drivers.Adf4350Calls
import NoOS.Drivers.Adf4371
import NoOS.Drivers.Adf5355
import NoOS.Drivers.ClkAlteraA10Fpll
import NoOS.Drivers.ClkAlteraA10FpllLimits
import NoOS.Drivers.Adf5355Setup
import NoOS.Drivers.AxiAdcActive
import NoOS.Drivers.AxiAdcDelay
import NoOS.Drivers.AxiAdxcvr
import NoOS.Drivers.AxiAdxcvrRate
import NoOS.Drivers.AxiJesd204Ilas
import NoOS.Drivers.AxiJesd204Link
import NoOS.Drivers.Ad9361Ensm
import NoOS.Drivers.Ad9361EnsmLegality
import NoOS.Drivers.AlteraA10AtxPll
import NoOS.Drivers.AlteraA10CdrPll
import NoOS.Drivers.AlteraA10CdrSettings
import NoOS.Drivers.AlteraAdxcvrFields
import NoOS.Drivers.AlteraAdxcvrReadBack
import NoOS.Drivers.AlteraSearchLimits
import NoOS.Drivers.Ad9361Fastlock
import NoOS.Drivers.Ad9361FastlockProfiles
import NoOS.Drivers.Ad9361GainTables
import NoOS.Drivers.Ad9361Loopback
import NoOS.Drivers.Ad9361RxGain
import NoOS.Drivers.Ad9361RxGainNearest
import NoOS.Drivers.Ad9361TxAtten
import NoOS.Drivers.Ad9361TxMuting
import NoOS.Drivers.Adxl372
import NoOS.Drivers.Adxl372Fifo
import NoOS.Network.AtParserDelivery
import NoOS.Network.AtParserHeader
import NoOS.Drivers.Adf7023
import NoOS.Drivers.Adf7023Link
import NoOS.Drivers.Adf5902
import NoOS.Drivers.Adf5902Frequency
import NoOS.Drivers.IioAxiDac
import NoOS.Drivers.Ad9528
import NoOS.Drivers.Ad9528Port
import NoOS.Drivers.Ad9528Rates
import NoOS.Drivers.Ad7606
import NoOS.Drivers.Ad7606Samples
import NoOS.Drivers.Ad9517
import NoOS.Drivers.Ad9517Rates
import NoOS.Drivers.Ad9517Vco
import NoOS.Drivers.SpiEngine
import NoOS.Drivers.SpiEngineExchange
import NoOS.Iio.Fractional
import NoOS.Iio.Transfer
import NoOS.Iio.TransferSamples
import NoOS.Iio.Registration
import NoOS.Lib.QuotedFields
import NoOS.Network.AtCommand
import NoOS.Network.AtCommandText
import NoOS.Lib.Loops
import NoOS.Network.AtRunCmd
import NoOS.Network.AtRunCmdFrame
import NoOS.Network.AtRunCmdStatus
import NoOS.Network.AtTimeouts
import NoOS.Network.WifiRecv
import NoOS.Iio.NetworkLink
import NoOS.Iio.NetworkSockets
import NoOS.Network.AtParserCollect
import NoOS.Network.AtResponseScan
import NoOS.Network.AtResult
import NoOS.Drivers.AxiClkgenSearch
import NoOS.Drivers.AxiCalibText
import NoOS.Drivers.AxiDacCalib
import NoOS.Drivers.SpiEngineCommands
import NoOS.Drivers.AxiPwm
import NoOS.Util.ListIndex
import NoOS.Util.ListPriority
import NoOS.Util.ListDefaultOrder
import NoOS.Util.ListApi
import NoOS.Util.Crc
import NoOS.Util.Rational
import NoOS.Util.FindClosest
import NoOS.Drivers.Hmc7044OutDiv
import NoOS.Drivers.Adf4350Search
import NoOS.Drivers.Adf4350SetFreq
import NoOS.Drivers.Adf4350Accuracy
import NoOS.Lib.CrcTable
import NoOS.Lib.GreedyPowers
import NoOS.Drivers.Ad9361Rssi
import NoOS.Drivers.Ad9361Plls
import NoOS.Drivers.Ad9361GainUpdate
import NoOS.Drivers.Ad9361FindOpt
import NoOS.Drivers.AdcWaits
import NoOS.Drivers.Adpd410xPacket
import NoOS.Drivers.ClockTransfers
import NoOS.Drivers.Ad9361IntSqrt
import NoOS.Drivers.Ad9361FirOrder
