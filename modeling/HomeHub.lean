import HomeHub.Device.EntityId
import HomeHub.Device.Options
import HomeHub.Device.Store
import HomeHub.Fault
import HomeHub.Forecast.Assembly
import HomeHub.Forecast.Coordinates
import HomeHub.Forecast.Document
import HomeHub.Forecast.Selection
import HomeHub.Http.Address
import HomeHub.Http.Client
import HomeHub.Http.ContentCoding
import HomeHub.Http.Message
import HomeHub.Http.Route
import HomeHub.Http.Service
import HomeHub.Http.Target
import HomeHub.Http.Wire
import HomeHub.Json.Basic
import HomeHub.Json.Decoder
import HomeHub.Json.Nesting
import HomeHub.Json.Numeral
import HomeHub.Json.Printer
import HomeHub.Json.Reader
import HomeHub.Json.Record
import HomeHub.Json.Scan
import HomeHub.Json.Text
import HomeHub.Main
import HomeHub.Markup.Event
import HomeHub.Markup.Reference
import HomeHub.Markup.Tag
import HomeHub.Number.Binary64
import HomeHub.Number.Decimal
import HomeHub.Number.Digits
import HomeHub.Number.Shortest
import HomeHub.Proofs.Device.BodyOrder
import HomeHub.Proofs.Device.ConfigText
import HomeHub.Proofs.Device.Editor
import HomeHub.Proofs.Device.EntityId
import HomeHub.Proofs.Device.Interleaving
import HomeHub.Proofs.Device.Merge
import HomeHub.Proofs.Device.PollingIntensity
import HomeHub.Proofs.Device.Posts
import HomeHub.Proofs.Device.Refusal
import HomeHub.Proofs.Device.RefusedUpdate
import HomeHub.Proofs.Device.SharedFile
import HomeHub.Proofs.Device.WellFormed
import HomeHub.Proofs.Forecast.AcceptedText
import HomeHub.Proofs.Forecast.AssemblyRun
import HomeHub.Proofs.Forecast.Elements
import HomeHub.Proofs.Forecast.ForestDocument
import HomeHub.Proofs.Forecast.Nearest
import HomeHub.Proofs.Forecast.Nearness
import HomeHub.Proofs.Forecast.Score64
import HomeHub.Proofs.Forecast.Truncation
import HomeHub.Proofs.Forecast.WrittenDocument
import HomeHub.Proofs.Http.Frame
import HomeHub.Proofs.Json.Decoder
import HomeHub.Proofs.Json.Nesting
import HomeHub.Proofs.Json.Numeral
import HomeHub.Proofs.Json.Outline
import HomeHub.Proofs.Json.ReadBack
import HomeHub.Proofs.Json.Readable
import HomeHub.Proofs.Json.Reordered
import HomeHub.Proofs.Json.Scan
import HomeHub.Proofs.Json.Text
import HomeHub.Proofs.Markup.Escape
import HomeHub.Proofs.Markup.Pieces
import HomeHub.Proofs.Markup.TextForest
import HomeHub.Proofs.Markup.Unclosed
import HomeHub.Proofs.Markup.WrittenForest
import HomeHub.Proofs.Markup.WrittenTag
import HomeHub.Proofs.Number.Digits
import HomeHub.Proofs.Number.Order
import HomeHub.Proofs.Number.Signed64
import HomeHub.Proofs.Refresh.History
import HomeHub.Proofs.Refresh.PublishedText
import HomeHub.Proofs.Refresh.RegistryMirror
import HomeHub.Proofs.Refresh.Republished
import HomeHub.Proofs.Refresh.RetryHour
import HomeHub.Proofs.Refresh.Schedule
import HomeHub.Proofs.Refresh.Selected
import HomeHub.Proofs.Refresh.VigilClock
import HomeHub.Proofs.Refresh.VigilRun
import HomeHub.Proofs.Sensor.Change
import HomeHub.Proofs.Sensor.EntityId
import HomeHub.Proofs.Sensor.Registry
import HomeHub.Proofs.Sensor.Slug
import HomeHub.Proofs.Settings.Loaded
import HomeHub.Proofs.Settings.Thinned
import HomeHub.Proofs.SortedMap
import HomeHub.Proofs.Storage.Tree
import HomeHub.Proofs.Text.ByteOrder
import HomeHub.Proofs.Time.Calendar
import HomeHub.Proofs.Time.Instant
import HomeHub.Proofs.Time.Span
import HomeHub.Proofs.Time.Timestamp
import HomeHub.Proofs.ZWave.Saving
import HomeHub.Proofs.ZWave.Views
import HomeHub.Refresh.Feed
import HomeHub.Refresh.Refresher
import HomeHub.Refresh.Schedule
import HomeHub.Refresh.Vigil
import HomeHub.Sensor.Basic
import HomeHub.Sensor.Kind
import HomeHub.Sensor.Reading
import HomeHub.Sensor.Registry
import HomeHub.Sensor.Update
import HomeHub.Server.Launch
import HomeHub.Server.Log
import HomeHub.Settings.Basic
import HomeHub.Settings.Section
import HomeHub.Settings.Source
import HomeHub.Settings.Validity
import HomeHub.SortedMap
import HomeHub.Storage.File
import HomeHub.Storage.Tree
import HomeHub.Text.Blank
import HomeHub.Text.ByteSize
import HomeHub.Text.Encoding
import HomeHub.Text.Parser
import HomeHub.Text.Quoted
import HomeHub.Text.Split
import HomeHub.Text.Visible
import HomeHub.Time.Calendar
import HomeHub.Time.Instant
import HomeHub.Time.Timestamp
import HomeHub.Toml.Basic
import HomeHub.Toml.Blank
import HomeHub.Toml.Decoder
import HomeHub.Toml.Document
import HomeHub.Toml.Moment
import HomeHub.Toml.Numeral
import HomeHub.Toml.Table
import HomeHub.Toml.Text
import HomeHub.Toml.Value
import HomeHub.ZWave.Basic
import HomeHub.ZWave.Network
import HomeHub.ZWave.Record
import HomeHub.ZWave.Views
