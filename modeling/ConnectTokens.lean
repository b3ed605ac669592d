import ConnectTokens.Bytes.Lemmas
import ConnectTokens.Issuance.Bureau
import ConnectTokens.Main
import ConnectTokens.Matchmaker.Startup
import ConnectTokens.Proofs.Binding
import ConnectTokens.Proofs.Details
import ConnectTokens.Token.Delivery
import ConnectTokens.Proofs.Draws
import ConnectTokens.Proofs.Requests
import ConnectTokens.Proofs.Restarts
import ConnectTokens.Proofs.Acceptance
import ConnectTokens.Proofs.Secrecy
import ConnectTokens.Proofs.InPlace
import ConnectTokens.Proofs.Outcomes
import ConnectTokens.Proofs.AddressLists
import ConnectTokens.Proofs.AddressFaults
import ConnectTokens.Proofs.TokenFaults
import ConnectTokens.Proofs.PrivateForm
import ConnectTokens.Proofs.HeaderFields
import ConnectTokens.Proofs.Deliveries
import ConnectTokens.Proofs.KeyLoading
import ConnectTokens.Proofs.Policies
import ConnectTokens.Proofs.Room
