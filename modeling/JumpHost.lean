import JumpHost.Text.Blank
import JumpHost.Text.Ascii
import JumpHost.Text.Cut
import JumpHost.Text.Numeral
import JumpHost.Text.Utf8
import JumpHost.Base64
import JumpHost.Digest.Sha256
import JumpHost.Digest.Sha1
import JumpHost.Config
import JumpHost.Duration
import JumpHost.Log
import JumpHost.Files.Tree
import JumpHost.HostKey.Pattern
import JumpHost.Ledger.Line
import JumpHost.Ledger.Trust
import JumpHost.Json.Token
import JumpHost.Json.Numeral
import JumpHost.Config.Document
import JumpHost.Database.Url
import JumpHost.Network.Endpoint
import JumpHost.Registry
import JumpHost.PrivateKey
import JumpHost.Session.Lifecycle
import JumpHost.Tunnel.Basic
import JumpHost.Tunnel.Bridge
import JumpHost.Database.Connect
import JumpHost.CommandLine
import JumpHost.Main
import JumpHost.Json.Document
import JumpHost.Text.Shown
import JumpHost.Decimal.FloatText
import JumpHost.Bytes
import JumpHost.Cipher.Aes
import JumpHost.Cipher.Mode
import JumpHost.Digest.Md5
import JumpHost.Digest.Sha512
import JumpHost.Cipher.Blowfish
import JumpHost.Cipher.ChaCha
import JumpHost.Cipher.Passphrase
import JumpHost.Curve.Edwards
import JumpHost.Curve.Nist
import JumpHost.Base64.Groups
import JumpHost.PrivateKey.Armor
import JumpHost.PrivateKey.Cursor
import JumpHost.Der.Decoder
import JumpHost.Cipher.Salsa
import JumpHost.Cipher.Stretch
import JumpHost.Der.Value
import JumpHost.Proofs.Text.Utf8
import JumpHost.Proofs.Text.Pieces
import JumpHost.Proofs.Base64
import JumpHost.Proofs.Files.Tree
import JumpHost.Proofs.HostKey.Wildcard
import JumpHost.Proofs.HostKey.Walk
import JumpHost.Proofs.HostKey.Field
import JumpHost.Proofs.HostKey.Name
import JumpHost.Proofs.HostKey.Metacharacter
import JumpHost.Proofs.Ledger.Lines
import JumpHost.Proofs.Ledger.File
import JumpHost.Proofs.Ledger.History
import JumpHost.Proofs.Ledger.Judgement
import JumpHost.Proofs.Ledger.Monotone
import JumpHost.Proofs.Ledger.FirstUse
import JumpHost.Proofs.Ledger.Learning
import JumpHost.Proofs.Ledger.Layout
import JumpHost.Proofs.Network.SocketAddress
import JumpHost.Proofs.Database.Url
import JumpHost.Proofs.Database.Redaction
import JumpHost.Proofs.Database.DriverUrl
import JumpHost.Proofs.Database.Authority
import JumpHost.Proofs.Database.ForDriver
import JumpHost.Proofs.PrivateKey
import JumpHost.Proofs.Session.Closing
import JumpHost.Proofs.Session.Attempt
import JumpHost.Proofs.Tunnel.Opening
import JumpHost.Proofs.Tunnel.Binding
import JumpHost.Proofs.Tunnel.Route
import JumpHost.Proofs.Tunnel.Refusal
import JumpHost.Proofs.Tunnel.Disclosure
import JumpHost.Proofs.Registry.Sharing
import JumpHost.Proofs.Registry.History
import JumpHost.Proofs.Config.Document
import JumpHost.Proofs.Database.Target
import JumpHost.Proofs.Database.Grammar
import JumpHost.Proofs.Ledger.Mismatch
