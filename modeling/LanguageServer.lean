import LanguageServer.Json.Printer
import LanguageServer.Provider.Echo
import LanguageServer.Server.Basic
import LanguageServer.Proofs.DocumentSet.FiniteMap
import LanguageServer.Proofs.Session.Step
import LanguageServer.Proofs.Session.History
import LanguageServer.Proofs.Session.Isolation
import LanguageServer.Proofs.Session.Outstanding
import LanguageServer.Proofs.Session.Superseded
import LanguageServer.Proofs.Session.Dispatch
import LanguageServer.Proofs.Session.Handed
import LanguageServer.Proofs.Session.Delivery
import LanguageServer.Proofs.Session.Footprint
import LanguageServer.Proofs.Session.Noninterference
import LanguageServer.Proofs.Session.Invisible
import LanguageServer.Proofs.Session.Indifference
import LanguageServer.Proofs.Session.Reopening
import LanguageServer.Proofs.Session.Formatting
import LanguageServer.Proofs.Configuration.Denotation
import LanguageServer.Proofs.Configuration.Reading
import LanguageServer.Proofs.Configuration.Faults
import LanguageServer.Proofs.Server.Demand
import LanguageServer.Proofs.Server.Handling
import LanguageServer.Proofs.Server.Simulation
import LanguageServer.Proofs.Server.Options
import LanguageServer.Proofs.Text.LineStarts
import LanguageServer.Proofs.Text.Conversion
import LanguageServer.Proofs.Text.Positions
import LanguageServer.Proofs.Wire.Coordinates
import LanguageServer.Proofs.Text.Foreign
import LanguageServer.Proofs.Text.Partition
