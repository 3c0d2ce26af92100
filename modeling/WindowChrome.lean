import WindowChrome.Decorator
import WindowChrome.LoadGuard.Race
import WindowChrome.Serial
import WindowChrome.Signal.Responder
import WindowChrome.Proofs.Frame.Places
import WindowChrome.Proofs.Frame.Rest
import WindowChrome.Proofs.Frame.Current
import WindowChrome.Proofs.Frame.Upkeep
import WindowChrome.Proofs.Backend.Made
import WindowChrome.Proofs.Host.Agreement
import WindowChrome.Proofs.Host.Load
import WindowChrome.Proofs.Host.Swap
import WindowChrome.Proofs.Host.Fallback
import WindowChrome.Proofs.Host.Quarantine
import WindowChrome.Proofs.Host.Supply
import WindowChrome.Proofs.Decorator.Passing
import WindowChrome.Proofs.Decorator.Coherence
import WindowChrome.Proofs.Decorator.Currency
import WindowChrome.Proofs.Decorator.Reload
import WindowChrome.Proofs.Decorator.Account
import WindowChrome.Proofs.Decorator.Assignment
import WindowChrome.Proofs.Decorator.Freshness
import WindowChrome.Proofs.Decorator.Provenance
import WindowChrome.Proofs.Frame.Telling
import WindowChrome.Proofs.Shadow.History
import WindowChrome.Proofs.Decorator.Journal
import WindowChrome.Proofs.Decorator.Isolation
import WindowChrome.Proofs.Signal.Delivery
import WindowChrome.Proofs.Frame.Layout
import WindowChrome.Proofs.Frame.TitleBar
import WindowChrome.Proofs.LoadGuard.Race
import WindowChrome.Proofs.Frame.Chronicle
import WindowChrome.Proofs.Frame.Clicking
import WindowChrome.Proofs.Decorator.Clicking
import WindowChrome.Proofs.Frame.Hovering
import WindowChrome.Proofs.Frame.Headroom
import WindowChrome.Proofs.Preferences.Recomputation
import WindowChrome.Proofs.Preferences.PushedFont
import WindowChrome.Proofs.Host.Applying
import WindowChrome.Proofs.Shadow.Extent
import WindowChrome.Proofs.Frame.ClientCorners
import WindowChrome.Proofs.Shadow.Corner
import WindowChrome.Proofs.Button.Letters
import WindowChrome.Proofs.Property.Words
import WindowChrome.Proofs.Decorator.Listing
import WindowChrome.Proofs.LoadGuard.Checkpoints
import WindowChrome.Proofs.Button.Visibility
import WindowChrome.Proofs.Shadow.Shade
import WindowChrome.Proofs.Shadow.Pixels
