import Checkout.Main
import Checkout.Service.Session
import Checkout.Proofs.Gateway.Outcome
import Checkout.Proofs.Webhook.Completeness
import Checkout.Proofs.Webhook.Secret
import Checkout.Proofs.Gateway.Requests
import Checkout.Proofs.Service.Keys
import Checkout.Proofs.Text.Pieces
import Checkout.Proofs.Url.Percent
import Checkout.Proofs.Url.Path
import Checkout.Proofs.Url.Below
import Checkout.Proofs.Url.Plain
import Checkout.Proofs.Gateway.Target
import Checkout.Proofs.Json.Places
import Checkout.Proofs.Money.Text
import Checkout.Proofs.Money.Value
import Checkout.Proofs.Transaction.Written
import Checkout.Proofs.Gateway.Amount
import Checkout.Proofs.Json.Lexing
import Checkout.Proofs.Json.Rendering
import Checkout.Proofs.Transaction.Request
import Checkout.Proofs.Service.History
import Checkout.Proofs.Service.Tally
import Checkout.Proofs.Service.Secrecy
import Checkout.Proofs.Transaction.Wire
import Checkout.Proofs.Money.Nearest
import Checkout.Proofs.Service.Start
import Checkout.Proofs.Json.Survival
import Checkout.Proofs.Transaction.Survival
import Checkout.Proofs.Payment.Description
import Checkout.Proofs.Transaction.Building
import Checkout.Proofs.Gateway.Creation
import Checkout.Proofs.Gateway.Voiding
import Checkout.Proofs.Money.Division
import Checkout.Proofs.Json.Edits
import Checkout.Proofs.Webhook.Signing
import Checkout.Proofs.Webhook.Spelling
import Checkout.Proofs.Gateway.Replies
import Checkout.Proofs.Money.TwoPlaces
import Checkout.Proofs.Money.Ties
import Checkout.Proofs.Service.Errors
import Checkout.Proofs.Url.Word
import Checkout.Proofs.Service.Lookup
import Checkout.Proofs.Config.Currencies
import Checkout.Proofs.Transaction.Grammar
import Checkout.Proofs.Service.Surface
import Checkout.Proofs.Gateway.Tokenization
