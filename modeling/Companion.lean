import Companion.Descriptor.ToJson
import Companion.Host.Session
import Companion.Main
import Companion.Settings.OfJson
import Companion.Proofs.Scope.History
import Companion.Proofs.Scope.Imports
import Companion.Proofs.Scope.ShortNames
import Companion.Proofs.Scope.OwnNames
import Companion.Proofs.Scope.Passes
import Companion.Proofs.Event.Message
import Companion.Proofs.Scope.Log
import Companion.Proofs.Text.Offset
import Companion.Proofs.Text.Order
import Companion.Proofs.TypeRef.Parts
import Companion.Proofs.TypeRef.Grammar
import Companion.Proofs.TypeRef.Order
import Companion.Proofs.EntityClass.Resolution
import Companion.Proofs.Generation.Rendered
import Companion.Proofs.EntityClass.Written
import Companion.Proofs.EntityClass.TypeText
import Companion.Proofs.EntityClass.SharedText
import Companion.Proofs.EntityClass.Shadowing
import Companion.Proofs.EntityClass.ImportSection
import Companion.Proofs.EntityClass.FieldNames
import Companion.Proofs.Generation.Outcome
import Companion.Proofs.EntityClass.Accessors
import Companion.Proofs.EntityClass.LineCount
import Companion.Proofs.Text.Replace
import Companion.Proofs.EntityClass.CommentBlock
import Companion.Proofs.EntityClass.Indentation
import Companion.Proofs.EntityClass.PropertyOrder
import Companion.Proofs.Generation.Log
import Companion.Proofs.Files.Contents
import Companion.Proofs.Host.Session
import Companion.Proofs.Host.SaveHistory
import Companion.Proofs.Command.Outcome
import Companion.Proofs.Command.Agreement
import Companion.Proofs.Descriptor.Defects
import Companion.Proofs.Descriptor.TypeName
import Companion.Proofs.Descriptor.Package
import Companion.Proofs.Descriptor.Building
import Companion.Proofs.Json.Members
import Companion.Proofs.Json.Forms
import Companion.Proofs.Descriptor.RoundTrip
import Companion.Proofs.Descriptor.Forms
import Companion.Proofs.Settings.Forms
