import X509.Access.Description
import X509.Address.Basic
import X509.Address.Text
import X509.Constraint.Constrains
import X509.Constraint.Domain
import X509.Constraint.Relation
import X509.Constraint.Subtree
import X509.ContentError
import X509.Element.Basic
import X509.Element.Display
import X509.Element.Error
import X509.Element.Reading
import X509.Element.Tagging
import X509.Element.Writing
import X509.Extension.AttributeSet
import X509.Extension.Cache
import X509.Extension.Envelope
import X509.Extension.Kinds
import X509.Extension.Run
import X509.Extension.Typed
import X509.Field.Kinds
import X509.GeneralName.Basic
import X509.GeneralName.Codec
import X509.GeneralName.Host
import X509.GeneralName.Kind
import X509.GeneralName.Validity
import X509.Json.Basic
import X509.Json.Contents
import X509.Json.Faults
import X509.Json.Names
import X509.Json.Text
import X509.Json.Values
import X509.Key.Algorithm
import X509.Key.PublicKeyInfo
import X509.Key.SerialNumber
import X509.Key.Sha1
import X509.Name.Basic
import X509.Name.Canonical
import X509.Name.Codec
import X509.Name.DirectoryString
import X509.Octets
import X509.Octets.HexText
import X509.PkixError
import X509.Policy.Mapping
import X509.Revocation.DistributionPoint
import X509.Revocation.Reason
import X509.Revocation.ReasonFlags
import X509.Text.Blank
import X509.Text.CaseRanges
import X509.Text.Decimal
import X509.Text.Lowercase
import X509.Text.Quoted
import X509.Text.Ranges
import X509.Text.Record
import X509.Text.Split
import X509.Text.VisibleRanges
import X509.Tlv.Basic
import X509.Tlv.Error
import X509.Tlv.Grammar
import X509.Tlv.Length
import X509.Tlv.Parser
import X509.Tlv.Tag
import X509.Value.BitString
import X509.Value.BmpText
import X509.Value.DateTime
import X509.Value.Integer
import X509.Value.ObjectIdentifier
import X509.Proofs.Outcome
import X509.Proofs.Tlv.Acceptance
import X509.Proofs.Address.Case
import X509.Proofs.Address.Ranges
import X509.Proofs.Address.Masks
import X509.Proofs.Address.Members
import X509.Proofs.Constraint.Laws
import X509.Proofs.Constraint.Algebra
import X509.Proofs.Octets
import X509.Proofs.Tlv.Writing
import X509.Proofs.Element.ReadsBack
import X509.Proofs.Name.Codec
import X509.Proofs.Value.ObjectIdentifier
import X509.Proofs.Element.Tagging
import X509.Proofs.GeneralName.Forms
import X509.Proofs.GeneralName.Authority
import X509.Proofs.GeneralName.Codec
import X509.Proofs.GeneralName.Contexts
import X509.Proofs.GeneralName.Parties
import X509.Proofs.Tlv.Building
import X509.Proofs.Text.Guarded
import X509.Proofs.Text.Lowercase
import X509.Proofs.Text.Numeral
import X509.Proofs.Value.DottedText
import X509.Proofs.Name.CanonicalAttribute
import X509.Proofs.Name.CanonicalName
import X509.Proofs.Extension.Asked
import X509.Proofs.Extension.Uncached
import X509.Proofs.Extension.Coherence
import X509.Proofs.Extension.Atomicity
import X509.Proofs.Extension.Arrival
import X509.Proofs.Extension.NumberRange
import X509.Proofs.Tlv.Shortest
import X509.Proofs.Tlv.LengthFields
import X509.Proofs.Value.Integer
import X509.Proofs.Value.DateTime
import X509.Proofs.Element.Coded
import X509.Proofs.Element.Rewriting
import X509.Proofs.Element.Fields
import X509.Proofs.Constraint.Subtree
import X509.Proofs.Revocation.DistributionPoint
import X509.Proofs.Constraint.Depth
import X509.Proofs.Constraint.Labels
import X509.Proofs.Constraint.Resources
import X509.Proofs.Constraint.Mailboxes
import X509.Proofs.Constraint.Hosts
import X509.Proofs.Constraint.Addresses
import X509.Proofs.Address.ReadsBack
import X509.Proofs.Json.Parts
import X509.Proofs.Json.ReadsBack
import X509.Proofs.Text.Case
import X509.Proofs.Name.CanonicalText
import X509.Proofs.Name.Variants
import X509.Proofs.Name.CanonicalOrder
import X509.Proofs.GeneralName.Assembly
import X509.Proofs.Element.Implicit
import X509.Proofs.Value.ArcGroups
import X509.Proofs.Element.Times
