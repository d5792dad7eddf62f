import TsdbClient.Wire
import TsdbClient.UrlValues
import TsdbClient.Duration
import TsdbClient.Batch
import TsdbClient.Transport
import TsdbClient.Decoder
import TsdbClient.Tsdb
import TsdbClient.Chan
import TsdbClient.Escape
import TsdbClient.Bridge
import TsdbClient.Package
