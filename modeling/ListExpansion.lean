import ListExpansion.Config.Json
import ListExpansion.Directory.Prepared
import ListExpansion.Ldap.Server
import ListExpansion.Ldap.Sharing
import ListExpansion.Main
import ListExpansion.Proofs.Address.Order
import ListExpansion.Proofs.Address.Sweep
import ListExpansion.Proofs.Address.Difference
import ListExpansion.Proofs.Address.Canonical
import ListExpansion.Proofs.Address.Bounds
import ListExpansion.Proofs.Address.Capacity
import ListExpansion.Proofs.Resolver.Expansion
import ListExpansion.Proofs.Resolver.History
import ListExpansion.Proofs.Directory.Recording
import ListExpansion.Proofs.Resolver.Isolation
import ListExpansion.Proofs.Milter.Recipients
import ListExpansion.Proofs.Milter.Traffic
import ListExpansion.Proofs.Milter.Delivery
import ListExpansion.Proofs.Text.Utf8
import ListExpansion.Proofs.Directory.Query
import ListExpansion.Proofs.Resolver.Resolution
import ListExpansion.Proofs.Resolver.Searches
import ListExpansion.Proofs.Resolver.Failure
import ListExpansion.Proofs.Ldap.Presentation
import ListExpansion.Proofs.Ldap.Sharing
import ListExpansion.Proofs.Milter.Trouble
import ListExpansion.Proofs.Milter.Errors
import ListExpansion.Proofs.Host.Changes
import ListExpansion.Proofs.Daemon.Serving
import ListExpansion.Proofs.Daemon.Listener
import ListExpansion.Proofs.Daemon.Releases
import ListExpansion.Proofs.Config.File
import ListExpansion.Proofs.Program.Startup
import ListExpansion.Proofs.Host.Contents
import ListExpansion.Proofs.Host.Likeness
import ListExpansion.Proofs.Daemon.Secrecy
import ListExpansion.Proofs.Program.Secrecy
import ListExpansion.Proofs.Address.Parts
import ListExpansion.Proofs.Template
import ListExpansion.Proofs.Directory.Encoding
import ListExpansion.Proofs.Milter.Handover
import ListExpansion.Proofs.Config.Socket
import ListExpansion.Proofs.Daemon.InUse
import ListExpansion.Proofs.Resolver.EmptySearch
import ListExpansion.Proofs.Config.Validity
import ListExpansion.Ldap.TimeLimit
import ListExpansion.Proofs.Daemon.Requests
import ListExpansion.Proofs.Config.Reading
import ListExpansion.Proofs.Config.Json
import ListExpansion.Proofs.Text.Blank
import ListExpansion.Proofs.Config.LogLevel
import ListExpansion.Proofs.CommandLine
import ListExpansion.Proofs.Program.Level
