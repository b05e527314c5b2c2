import Edwards25519.Proofs.Encoding.Document
import Edwards25519.Proofs.Field.Formula
import Edwards25519.Proofs.Point.Equality
