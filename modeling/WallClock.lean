import WallClock.Instant.Json
import WallClock.Main
import WallClock.Role.Json
import WallClock.Proofs.Civil.Calendar
import WallClock.Proofs.Civil.Minute
import WallClock.Proofs.Display.LocalTime
import WallClock.Proofs.Zone.Recurring
import WallClock.Proofs.Zone.Turns
import WallClock.Proofs.Display.Turn
import WallClock.Proofs.Instant.RoundTrip
import WallClock.Proofs.Store.Changes
import WallClock.Proofs.Store.Contents
import WallClock.Proofs.Preference.Steps
import WallClock.Proofs.Preference.History
import WallClock.Proofs.Json.Number
import WallClock.Proofs.Json.Quoted
import WallClock.Proofs.Instant.Timestamp
import WallClock.Proofs.Store.Requests
import WallClock.Proofs.Store.Reopening
import WallClock.Proofs.Text.Bytes
import WallClock.Proofs.Zone.Names
import WallClock.Proofs.Zone.Lookup
import WallClock.Proofs.Selector.Listing
import WallClock.Proofs.Files.Tree
import WallClock.Proofs.Store.Keeping
import WallClock.Proofs.Preference.Opening
import WallClock.Proofs.Preference.Choice
import WallClock.Proofs.Command.Perform
import WallClock.Proofs.Command.Runs
import WallClock.Proofs.Files.Path
import WallClock.Proofs.Json.Layout
import WallClock.Proofs.Json.Value
import WallClock.Proofs.Json.Written
import WallClock.Proofs.Selector.Json
import WallClock.Proofs.Selector.Members
import WallClock.Proofs.Instant.Typed
import WallClock.Proofs.Civil.Order
import WallClock.Proofs.Instant.Limit
import WallClock.Proofs.Display.Order
import WallClock.Proofs.Text.Encoding
import WallClock.Proofs.Selector.Order
import WallClock.Proofs.Selector.Filter
import WallClock.Proofs.Display.Universal
import WallClock.Proofs.Role.Spelling
import WallClock.Proofs.Command.Format
import WallClock.Proofs.Store.AnyText
import WallClock.Proofs.Preference.AnyText
import WallClock.Proofs.Command.AnyText
import WallClock.Proofs.Text.Solid
import WallClock.Proofs.Instant.Blanks
import WallClock.Proofs.Zone.Spelling
import WallClock.Proofs.Preference.ByName
import WallClock.Proofs.Text.Lines
import WallClock.Proofs.Selector.Reading
import WallClock.Proofs.Report.Terminal
import WallClock.Proofs.Command.Flags
import WallClock.Proofs.Command.Written
import WallClock.Proofs.Command.Colour
