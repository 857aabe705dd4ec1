import ExtensionCatalogue.Main
import ExtensionCatalogue.Server.Router
import ExtensionCatalogue.Proofs.Sync.SingleFlight
import ExtensionCatalogue.Proofs.Sync.LatestSearch
import ExtensionCatalogue.Proofs.Sync.Confluence
import ExtensionCatalogue.Proofs.Sync.Debounce
import ExtensionCatalogue.Proofs.Sync.Independence
import ExtensionCatalogue.Proofs.Sync.Mirror
import ExtensionCatalogue.Proofs.Sync.ProgressStream
import ExtensionCatalogue.Proofs.Sync.Failures
import ExtensionCatalogue.Proofs.Sync.Shutdown
import ExtensionCatalogue.Proofs.Server.Router
import ExtensionCatalogue.Proofs.Exchange
import ExtensionCatalogue.Proofs.Catalog.Search
import ExtensionCatalogue.Proofs.Client.Endpoint
import ExtensionCatalogue.Proofs.Client.Listing
import ExtensionCatalogue.Proofs.Package.RoundTrip
import ExtensionCatalogue.Proofs.Client.Install
import ExtensionCatalogue.Proofs.Progress.Exact
import ExtensionCatalogue.Proofs.Progress.Steps
import ExtensionCatalogue.Proofs.Registry.Roster
import ExtensionCatalogue.Proofs.Catalog.Duplicates
import ExtensionCatalogue.Proofs.CommandLine.Overrides
