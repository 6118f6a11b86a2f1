import Bindery.Data.Value
import Bindery.Format.Base64
import Bindery.Format.Yaml.Graph
import Bindery.Format.Yaml.Number

/-!
# What YAML nodes stand for

The value of a node follows from its tag.  A scalar has its value at once.  A collection is begun
where it is met first and filled when everything that was begun before it is filled; so errors are
reported level by level, and a collection may be part of itself.
-/

namespace Bindery.Format.Yaml

open Bindery.Data

/-! ## Scalars -/

/-- The truth value of a word. -/
def truth? (word : String) : Option Bool :=
  if word ∈ ["yes", "true", "on"] then some true
  else if word ∈ ["no", "false", "off"] then some false
  else none

/-- The point in time that a text stands for. A line feed at its end does not count. -/
def timeValue (content : String) : Except Error Value :=
  match Timestamp.moment? (Tag.withoutLineEnd content).toList with
  | none => .error (.unrepresentable .notTime)
  | some (moment, _) =>
    match moment.problem? with
    | some problem => .error (.unrepresentable (.noDate problem))
    | none => .ok (.time moment)

/-- The value of a text with a tag that is for scalars. -/
def scalarValue (tag : Tag) (content : String) : Except Error Value :=
  let orFlaw {α : Type} : Except Unrepresentable α → Except Error α :=
    Except.mapError Error.unrepresentable
  match tag with
  | .null => .ok .null
  | .bool =>
    match truth? (Text.lower content) with
    | some value => .ok (.bool value)
    | none => .error (.unrepresentable (.notTruth (Text.lower content)))
  | .int => (orFlaw (integerValue content)).map .int
  | .real => (orFlaw (realValue content)).map .real
  | .binary =>
    if content.toList.any (·.toNat ≥ 0x80) then .error .malformed
    else orMalformed ((Base64.decode content.toList).map .bytes)
  | .time => timeValue content
  | .text => .ok (.text content)
  | _ => .error .malformed

/-! ## The state of building -/

/-- What a node has become. The parts of a collection are nodes again; it has none until it is
filled. -/
inductive Begun where
  | scalar (value : Value)
  | list (items : List NodeId)
  | pairs (entries : List (NodeId × NodeId))
  | set (members : List NodeId)
  | map (entries : List (NodeId × NodeId))
  deriving Repr

/-- The collection without parts that a tag stands for. -/
def Begun.collection? : Tag → Option Begun
  | .sequence => some (.list [])
  | .ordered | .pairs => some (.pairs [])
  | .set => some (.set [])
  | .mapping => some (.map [])
  | _ => none

/-- How far the nodes of a document are built: the nodes, in which merged entries are put in their
place; what each has become; and the collections that are to be filled, the last first. -/
structure Building where
  nodes : Array Node
  begun : Array (Option Begun)
  waiting : List NodeId := []

/-- A step of building. -/
abbrev Builder := StateT Building (Except Error)

namespace Builder

/-- A node by its number. -/
def node (id : NodeId) : Builder Node := return (← get).nodes.getD id default

/-- What a node has become, if it is begun. -/
def begun? (id : NodeId) : Builder (Option Begun) := return (← get).begun.getD id none

/-- The entries of a mapping; other nodes have none. -/
def entries (id : NodeId) : Builder (List (NodeId × NodeId)) := do
  match (← node id).content with
  | .mapping entries => return entries
  | _ => return []

/-- Gives a mapping other entries. -/
def setEntries (id : NodeId) (entries : List (NodeId × NodeId)) : Builder Unit :=
  modify fun building =>
    { building with
      nodes := building.nodes.modify id fun node => { node with content := .mapping entries } }

/-- Sets what a node has become. -/
def become (id : NodeId) (begun : Begun) : Builder Unit :=
  modify fun building => { building with begun := building.begun.setIfInBounds id (some begun) }

/-! ## Beginning -/

/-- The text of a node: that of a scalar, or of the default value in a mapping. A node that is
its own default value has none. -/
def text (depth : Nat) (id : NodeId) : Builder String := do
  match depth with
  | 0 => throw (.unrepresentable .endless)
  | depth + 1 =>
    match (← node id).content with
    | .scalar content => return content
    | .sequence _ => throw .malformed
    | .mapping entries =>
      match ← entries.findM? fun (key, _) => return (← node key).tag = .defaultValue with
      | some (_, value) => text depth value
      | none => throw .malformed

/-- The value of a node that is no collection. -/
def scalar (id : NodeId) : Builder Value := do
  let ⟨tag, content⟩ ← node id
  let text ← text ((← get).nodes.size + 1) id
  match tag, content with
  | .time, .mapping _ => throw (.unrepresentable .timeWithoutText)
  | _, _ => scalarValue tag text

/-- Begins a node, unless it is begun already. -/
def begin (id : NodeId) : Builder Unit := do
  if (← begun? id).isSome then return
  match Begun.collection? (← node id).tag with
  | some collection =>
    become id collection
    modify fun building => { building with waiting := id :: building.waiting }
  | none => become id (.scalar (← scalar id))

/-! ## Merging -/

/-- The entries that a node offers to a mapping that takes it over: those of a mapping, or those of
several mappings, the last first. -/
def offered (flatten : NodeId → Builder Unit) (id : NodeId) :
    Builder (List (NodeId × NodeId)) := do
  match (← node id).content with
  | .mapping _ =>
    flatten id
    entries id
  | .sequence items =>
    let lists ← items.mapM fun item => do
      match (← node item).content with
      | .mapping _ =>
        flatten item
        entries item
      | _ => throw .malformed
    return lists.reverse.flatten
  | .scalar _ => throw .malformed

/-- Takes the entries at merge keys over into a mapping, given the entries that were passed, those
to come, and those that were taken over so far. A mapping that takes itself over has taken over
everything to come when it is back. -/
def mergeEntries (flatten : NodeId → Builder Unit) (id : NodeId)
    (passed merged : List (NodeId × NodeId)) : List (NodeId × NodeId) → Builder Unit
  | [] => do if ! merged.isEmpty then setEntries id (merged ++ passed)
  | (key, value) :: more => do
    match (← node key).tag with
    | .merge =>
      setEntries id (passed ++ more)
      let merged := merged ++ (← offered flatten value)
      let now ← entries id
      if now = passed ++ more then mergeEntries flatten id passed merged more
      else setEntries id (merged ++ now)
    | .defaultValue =>
      modify fun building =>
        { building with nodes := building.nodes.modify key ({ · with tag := .text }) }
      mergeEntries flatten id (passed ++ [(key, value)]) merged more
    | _ => mergeEntries flatten id (passed ++ [(key, value)]) merged more

/-- Takes the entries at the merge keys of a mapping over, and makes its default values ordinary
entries. A merge key is gone before what it merges is looked at, so there are no more levels than
merge keys. -/
def flatten : Nat → NodeId → Builder Unit
  | 0, _ => throw .malformed
  | depth + 1, id => do mergeEntries (flatten depth) id [] [] (← entries id)

/-! ## Filling -/

/-- The value of a node that can be a key: a scalar. -/
def keyValue (id : NodeId) : Builder Value := do
  match ← begun? id with
  | some (.scalar value) => return value
  | _ => throw .malformed

/-- Whether two nodes are the same key: one node, or nodes with values that are the same key. -/
def sameKey (first second : NodeId) : Builder Bool :=
  if first = second then return true
  else return (← keyValue first).sameKey (← keyValue second)

/-- Entries with one more, which takes the place of an entry of the same key. -/
def addEntry (key value : NodeId) :
    List (NodeId × NodeId) → Builder (List (NodeId × NodeId))
  | [] => return [(key, value)]
  | (other, held) :: more => do
    if ← sameKey other key then return (other, value) :: more
    else return (other, held) :: (← addEntry key value more)

/-- The entries of a mapping that count. -/
def distinctEntries (id : NodeId) : Builder (List (NodeId × NodeId)) := do
  flatten ((← get).nodes.size + 1) id
  (← entries id).foldlM (fun held (key, value) => do
    begin key
    let _ ← keyValue key
    begin value
    addEntry key value held) []

/-- The entry of an item of a list of pairs: a mapping with one entry. -/
def pair (id : NodeId) : Builder (NodeId × NodeId) := do
  match (← node id).content with
  | .mapping [(key, value)] =>
    begin key
    begin value
    return (key, value)
  | _ => throw .malformed

/-- Fills a collection that was begun. -/
def fill (id : NodeId) : Builder Unit := do
  let ⟨tag, content⟩ ← node id
  match tag, content with
  | .sequence, .sequence items =>
    items.forM begin
    become id (.list items)
  | .ordered, .sequence items | .pairs, .sequence items =>
    become id (.pairs (← items.mapM pair))
  | .set, .mapping _ => become id (.set ((← distinctEntries id).map (·.1)))
  | .mapping, .mapping _ => become id (.map (← distinctEntries id))
  | _, _ => throw .malformed

/-- Fills the collections that were begun, and those that are begun by that. Every round fills at
least one, so no more rounds are needed than there are nodes. -/
def fillAll : Nat → Builder Unit
  | 0 => return
  | rounds + 1 => do
    let waiting := (← get).waiting
    if ! waiting.isEmpty then
      modify fun building => { building with waiting := [] }
      waiting.reverse.forM fill
      fillAll rounds

end Builder

/-! ## Values -/

/-- The value that a node has become, given the nodes around it, and the nodes around it that it
contains again. A value that contains none of them is the same everywhere and is kept. -/
def unfold (begun : Array (Option Begun)) (depth : Nat) (around : List NodeId) (id : NodeId) :
    StateM (Array (Option Value)) (Value × List NodeId) := do
  match depth with
  | 0 => return (.null, [])
  | depth + 1 =>
    if around.contains id then return (.again id, [id])
    if let some value := (← get).getD id none then return (value, [])
    let parts (ids : List NodeId) : StateM (Array (Option Value)) (List (Value × List NodeId)) :=
      ids.mapM (unfold begun depth (id :: around))
    let values (found : List (Value × List NodeId)) : List Value := found.map (·.1)
    let outer (found : List (Value × List NodeId)) : List NodeId := found.flatMap (·.2)
    let pairs (entries : List (NodeId × NodeId)) := do
      let keys ← parts (entries.map (·.1))
      let held ← parts (entries.map (·.2))
      return ((values keys).zip (values held), outer (keys ++ held))
    let (body, repeated) ←
      match begun.getD id none with
      | none => pure (.null, [])
      | some (.scalar value) => pure (value, [])
      | some (.list items) => do
        let found ← parts items
        pure (.list (values found), outer found)
      | some (.set members) => do
        let found ← parts members
        pure (.set (values found), outer found)
      | some (.pairs entries) => do
        let (held, repeated) ← pairs entries
        pure (.list (held.map fun (key, value) => .list [key, value]), repeated)
      | some (.map entries) => do
        let (held, repeated) ← pairs entries
        pure (.map held, repeated)
    let value := if repeated.contains id then .loop id body else body
    let outside := (repeated.filter (· ≠ id)).eraseDups
    if outside.isEmpty then modify (·.setIfInBounds id (some value))
    return (value, outside)

/-- The value of a document. -/
def Graph.value (graph : Graph) : Except Error Value := do
  let size := graph.nodes.size
  let start : Building := { nodes := graph.nodes, begun := Array.replicate size none }
  let build : Builder Unit := do
    Builder.begin graph.root
    Builder.fillAll size
  let (_, built) ← build.run start
  let ((value, _), _) := (unfold built.begun (size + 1) [] graph.root).run (.replicate size none)
  return value

end Bindery.Format.Yaml
