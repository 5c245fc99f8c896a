import HttpFetch.Calendar
import HttpFetch.Charset
import HttpFetch.Charset.BigFiveTable
import HttpFetch.Charset.Chinese
import HttpFetch.Charset.ChineseTable
import HttpFetch.Charset.CodePage
import HttpFetch.Charset.CodePageTable
import HttpFetch.Charset.Codebook
import HttpFetch.Charset.EastAsian
import HttpFetch.Charset.Escaped
import HttpFetch.Charset.Grid
import HttpFetch.Charset.HostName
import HttpFetch.Charset.HostNameTable
import HttpFetch.Charset.Hz
import HttpFetch.Charset.Iso2022
import HttpFetch.Charset.Japanese
import HttpFetch.Charset.JapaneseTable
import HttpFetch.Charset.Korean
import HttpFetch.Charset.KoreanTable
import HttpFetch.Charset.Utf16
import HttpFetch.Charset.Utf32
import HttpFetch.Charset.Utf7
import HttpFetch.Chunked
import HttpFetch.Client
import HttpFetch.CommandLine.Arguments
import HttpFetch.CommandLine.Flag
import HttpFetch.CommandLine.Program
import HttpFetch.Cookie.Basic
import HttpFetch.Cookie.Date
import HttpFetch.Cookie.Jar
import HttpFetch.Cookie.SetCookie
import HttpFetch.Exchange
import HttpFetch.Failure
import HttpFetch.Fault
import HttpFetch.Header
import HttpFetch.Host.DirectionTable
import HttpFetch.Host.Ip
import HttpFetch.Host.Label
import HttpFetch.Host.LabelTable
import HttpFetch.Host.MappingTable
import HttpFetch.Host.Name
import HttpFetch.Log
import HttpFetch.Main
import HttpFetch.Network
import HttpFetch.Number.Decimal
import HttpFetch.Number.Digit
import HttpFetch.Number.Double
import HttpFetch.Number.Integer
import HttpFetch.OrderedMap
import HttpFetch.Payload.Basic
import HttpFetch.Payload.Source
import HttpFetch.Payload.Upload
import HttpFetch.Request
import HttpFetch.Response.Body
import HttpFetch.Response.Head
import HttpFetch.Settings
import HttpFetch.Stream.Reader
import HttpFetch.Stream.Socket
import HttpFetch.Stream.Transport
import HttpFetch.Text.Basic
import HttpFetch.Text.Blank
import HttpFetch.Text.Case
import HttpFetch.Text.CaseTable
import HttpFetch.Text.Latin
import HttpFetch.Text.Normal
import HttpFetch.Text.NormalTable
import HttpFetch.Text.Percent
import HttpFetch.Text.PrintableTable
import HttpFetch.Text.Punycode
import HttpFetch.Text.Quoted
import HttpFetch.Text.Table
import HttpFetch.Text.Utf8
import HttpFetch.Url.Basic
import HttpFetch.Url.Join
import HttpFetch.Url.Parse
import HttpFetch.Proofs.Chunked.Decoding
import HttpFetch.Proofs.Response.BodyDecoding
import HttpFetch.Proofs.Response.HeadDecoding
import HttpFetch.Proofs.Response.Segmentation
import HttpFetch.Proofs.Chunked.RoundTrip
import HttpFetch.Proofs.Payload.Contents
import HttpFetch.Proofs.Payload.Sending
import HttpFetch.Proofs.Payload.RoundTrip
import HttpFetch.Proofs.Exchange.Hop
import HttpFetch.Proofs.Exchange.Connecting
import HttpFetch.Proofs.Exchange.Dialling
import HttpFetch.Proofs.Exchange.Visits
import HttpFetch.Proofs.Exchange.Keeping
import HttpFetch.Proofs.Exchange.Raising
import HttpFetch.Proofs.CommandLine.Reporting
import HttpFetch.Proofs.Exchange.Timeouts
import HttpFetch.Proofs.Exchange.Closing
import HttpFetch.Proofs.Exchange.Carrying
import HttpFetch.Proofs.Chunked.Grammar
import HttpFetch.Proofs.Payload.Truncation
import HttpFetch.Proofs.Response.Grammar
import HttpFetch.Proofs.Response.Punctuality
import HttpFetch.Proofs.Cookie.Date
import HttpFetch.Proofs.Number.Range
import HttpFetch.Proofs.Cookie.Storing
import HttpFetch.Proofs.Exchange.Origins
import HttpFetch.Proofs.Exchange.Budget
import HttpFetch.Proofs.Chunked.Truncation
import HttpFetch.Proofs.Cookie.Spelling
import HttpFetch.Proofs.Response.Truncation
import HttpFetch.Proofs.Exchange.Stages
import HttpFetch.Proofs.Exchange.Secrecy
import HttpFetch.Proofs.Client.Jars
import HttpFetch.Proofs.Stream.Conservation
import HttpFetch.Proofs.Stream.LineLimit
import HttpFetch.Proofs.Cookie.Filing
import HttpFetch.Proofs.Cookie.LastWins
import HttpFetch.Proofs.Response.HeadRoundTrip
import HttpFetch.Proofs.Exchange.Alike
import HttpFetch.Proofs.Exchange.Allowance
import HttpFetch.Proofs.Response.StatusCode
import HttpFetch.Proofs.Text.Percent
import HttpFetch.Proofs.Cookie.RoundTrip
import HttpFetch.Proofs.Response.Iteration
import HttpFetch.Proofs.Response.LifeCycle
import HttpFetch.Proofs.Response.Keeping
import HttpFetch.Proofs.Response.HeadTruncation
import HttpFetch.Proofs.Number.Spelling
import HttpFetch.Proofs.Chunked.Acceptance
import HttpFetch.Proofs.Response.Framing
import HttpFetch.Proofs.Text.Pieces
import HttpFetch.Proofs.Text.Printable
import HttpFetch.Proofs.Url.Spelling
import HttpFetch.Proofs.Exchange.RequestLines
import HttpFetch.Proofs.Url.Hosts
import HttpFetch.Proofs.Url.Joining
import HttpFetch.Proofs.Cookie.Attributes
import HttpFetch.Proofs.Cookie.Domain
import HttpFetch.Proofs.Exchange.Departure
import HttpFetch.Proofs.Exchange.RequestReading
