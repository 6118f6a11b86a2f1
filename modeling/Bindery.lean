import Bindery.Main
import Bindery.Proofs.Runs
import Bindery.Proofs.Shapes
import Bindery.Proofs.Members
import Bindery.Proofs.ModelClasses
import Bindery.Proofs.Failures
import Bindery.Proofs.Verdicts
import Bindery.Proofs.Bindings
import Bindery.Proofs.ModelNames
import Bindery.Proofs.Orders
import Bindery.Proofs.Owners
import Bindery.Proofs.Inspections
import Bindery.Proofs.Origins
import Bindery.Proofs.Trees
import Bindery.Proofs.Writes
import Bindery.Proofs.Bodies
import Bindery.Proofs.ClassScope
import Bindery.Proofs.Lines
import Bindery.Proofs.Exports
import Bindery.Proofs.Ledger
import Bindery.Proofs.Places
import Bindery.Proofs.Endings
import Bindery.Proofs.Refusals
import Bindery.Proofs.Vocabulary
import Bindery.Proofs.Absence
import Bindery.Proofs.FieldNames
import Bindery.Proofs.Widening
import Bindery.Proofs.References
import Bindery.Proofs.Joining
import Bindery.Proofs.Requests
import Bindery.Proofs.Placeholders
import Bindery.Proofs.PathParameters
import Bindery.Proofs.MemberNames
import Bindery.Proofs.Collisions
import Bindery.Proofs.Precedence
import Bindery.Proofs.Arguments
import Bindery.Proofs.Properties
import Bindery.Proofs.FieldScope
import Bindery.Proofs.BuiltinNames
import Bindery.Proofs.ImportStatements
import Bindery.Proofs.Setters
import Bindery.Proofs.Asynchronous
import Bindery.Proofs.Checks
import Bindery.Proofs.Records
import Bindery.Proofs.JsonGrammar
import Bindery.Proofs.Respellings
import Bindery.Proofs.Escapes
import Bindery.Proofs.LineEnds
import Bindery.Proofs.Loads
import Bindery.Proofs.Recognition
import Bindery.Proofs.Sessions
import Bindery.Proofs.ClassNames
import Bindery.Proofs.Literals
import Bindery.Proofs.Verbatim
import Bindery.Proofs.Tables
import Bindery.Proofs.ShownNames
