import Bindery.Format.Yaml.Lexer
import Bindery.Format.Yaml.Tag

/-!
# Graphs of YAML nodes

The tokens of a text form at most one document, which is a graph of scalars, sequences and
mappings.  Nodes are known by number, in the order in which they start.  An alias is the number of
the node that its anchor names, so a node can be part of several others, and even of itself.
-/

namespace Bindery.Format.Yaml

open Bindery.Data

/-- The number of a node in a graph. -/
abbrev NodeId := Nat

/-- What a node holds. -/
inductive Content where
  | scalar (text : String)
  | sequence (items : List NodeId)
  | mapping (entries : List (NodeId × NodeId))
  deriving DecidableEq, Repr

/-- A node with what it holds. -/
structure Node where
  tag : Tag
  content : Content
  deriving DecidableEq, Repr

instance : Inhabited Node := ⟨.null, .scalar ""⟩

/-- A document: its nodes by number, and which of them is the whole. -/
structure Graph where
  nodes : Array Node
  root : NodeId
  deriving Repr

namespace Graph

/-! ## Drafts -/

/-- The nodes that were started so far, and the anchors with the nodes they name. -/
structure Draft where
  nodes : Array Node := #[]
  anchors : List (String × NodeId) := []

namespace Draft

/-- The number that the next node gets. -/
def next (draft : Draft) : NodeId := draft.nodes.size

/-- Adds a node. -/
def add (draft : Draft) (node : Node) : Draft := { draft with nodes := draft.nodes.push node }

/-- Gives a node its content. -/
def fill (draft : Draft) (id : NodeId) (content : Content) : Draft :=
  { draft with nodes := draft.nodes.modify id fun node => { node with content := content } }

/-- Lets an anchor, if there is one, name the next node. -/
def name (draft : Draft) (anchor : Option String) : Draft :=
  { draft with anchors := (anchor.map fun name => (name, draft.next)).toList ++ draft.anchors }

/-- Adds the node where nothing is written. -/
def addEmpty (draft : Draft) : Draft := draft.add ⟨.null, .scalar ""⟩

end Draft

/-! ## What precedes a node -/

/-- The handles of tags with what they stand for. -/
abbrev Handles := List (String × String)

/-- What is written about the tag of a node: nothing, that it is as for a plain scalar, or
which it is. -/
inductive Stated where
  | nothing
  | asPlain
  | tag (tag : Tag)
  deriving DecidableEq, Repr

/-- What the name of a tag states. A handle has to be known. -/
def Stated.read (handles : Handles) : Option TagName → Option Stated
  | none => some .nothing
  | some ⟨none, suffix⟩ => some (if suffix = "!" then .asPlain else .tag (.ofName suffix))
  | some ⟨some handle, suffix⟩ =>
    (handles.lookup handle).map fun meaning => .tag (.ofName (meaning ++ suffix))

/-- The tag of a scalar. -/
def Stated.ofScalar (stated : Stated) (plain : Bool) (content : String) : Tag :=
  match stated with
  | .tag own => own
  | .asPlain => .ofText content
  | .nothing => if plain then .ofText content else .text

/-- The tag of a collection. -/
def Stated.ofCollection (stated : Stated) (default : Tag) : Tag :=
  match stated with
  | .tag own => own
  | _ => default

/-- A sequence to be filled. -/
def Stated.sequence (stated : Stated) : Node := ⟨stated.ofCollection .sequence, .sequence []⟩

/-- A mapping to be filled. -/
def Stated.mapping (stated : Stated) : Node := ⟨stated.ofCollection .mapping, .mapping []⟩

/-- The anchor and the tag at the start of tokens, in either order, and the tokens after. -/
def properties : (tokens : List Token) → Option String × Option TagName × Remaining tokens
  | .anchor name :: .tag own :: rest => (some name, some own, ((Rest.tail _ rest).past _).remaining)
  | .tag own :: .anchor name :: rest => (some name, some own, ((Rest.tail _ rest).past _).remaining)
  | .anchor name :: rest => (some name, none, (Rest.tail _ rest).remaining)
  | .tag own :: rest => (none, some own, (Rest.tail _ rest).remaining)
  | tokens => (none, none, .all tokens)

/-! ## Nodes -/

/-- Where a node stands: in a flow collection, in a block, or in an entry of a block mapping,
where a sequence needs no indentation. -/
inductive Spot where
  | flow | block | blockEntry
  deriving DecidableEq, Repr

/-- What is read from tokens, with the draft after it. -/
abbrev Step (α : Type) (left : Type) := Except Error (α × Draft × left)

/-- The error that there is no good token next. -/
def unexpected : List Token → Error
  | .broken cause :: _ => cause
  | _ => .malformed

/-- In a flow collection: the tokens after its end, or those of its next item. -/
def flowStep (closing : Token) (first : Bool) (tokens : List Token) :
    Except Error (Rest tokens ⊕ Remaining tokens) :=
  match tokens with
  | [] => .error .malformed
  | token :: rest =>
    if token = closing then .ok (.inl (.tail token rest))
    else if first then .ok (.inr (.all (token :: rest)))
    else if token = .flowEntry then
      match rest with
      | [] => .error .malformed
      | next :: more =>
        if next = closing then .ok (.inl ((Rest.tail next more).past token))
        else .ok (.inr (Rest.tail token (next :: more)).remaining)
    else .error (unexpected tokens)

/-- Whether a node has content, given the tokens after its anchor and its tag. -/
def hasContent (spot : Spot) : List Token → Bool
  | .scalar .. :: _ | .flowSequence :: _ | .flowMapping :: _ => true
  | .blockSequence :: _ | .blockMapping :: _ => spot ≠ .flow
  | .blockEntry :: _ => spot = .blockEntry
  | _ => false

/-- The tokens before which an item of a sequence without indentation may be empty. -/
def looseEnds : List Token := [.blockEntry, .key, .value, .blockEnd]

/-- How deep collections can lie in each other. -/
def maxDepth : Nat := 491

mutual

/-- The content of a node, after its anchor and its tag, in which collections can lie `depth` deep
in each other. -/
def content (handles : Handles) (depth : Nat) (stated : Stated) (draft : Draft)
    (tokens : List Token) : Step NodeId (Rest tokens) :=
  match depth, tokens with
  | _, .scalar text plain :: rest =>
    .ok (draft.next, draft.add ⟨stated.ofScalar plain text, .scalar text⟩, .tail _ rest)
  | 0, _ => .error (.unrepresentable .tooDeep)
  | depth + 1, .flowSequence :: rest =>
    let id := draft.next
    match flowItems handles depth true (draft.add stated.sequence) rest with
    | .error error => .error error
    | .ok (items, drawn, left) =>
      .ok (id, drawn.fill id (.sequence items), left.past _)
  | depth + 1, .flowMapping :: rest =>
    let id := draft.next
    match flowEntries handles depth true (draft.add stated.mapping) rest with
    | .error error => .error error
    | .ok (entries, drawn, left) =>
      .ok (id, drawn.fill id (.mapping entries), left.past _)
  | depth + 1, .blockSequence :: rest =>
    let id := draft.next
    match blockItems handles depth (draft.add stated.sequence) rest with
    | .error error => .error error
    | .ok (items, drawn, left) =>
      .ok (id, drawn.fill id (.sequence items), left.past _)
  | depth + 1, .blockMapping :: rest =>
    let id := draft.next
    match blockEntries handles depth (draft.add stated.mapping) rest with
    | .error error => .error error
    | .ok (entries, drawn, left) =>
      .ok (id, drawn.fill id (.mapping entries), left.past _)
  | depth + 1, .blockEntry :: rest =>
    let id := draft.next
    match part handles depth .block looseEnds (draft.add stated.sequence) rest with
    | .error error => .error error
    | .ok (first, drawn, left) =>
      have := left.2
      match looseItems handles depth drawn left.1 with
      | .error error => .error error
      | .ok (more, drawn, last) =>
        .ok (id, drawn.fill id (.sequence (first :: more)),
          (left.andMaybe last).past _)
  | _, other => .error (unexpected other)
termination_by 5 * tokens.length
decreasing_by all_goals simp only [List.length_cons] at *; omega

/-- A node at the start of tokens. -/
def node (handles : Handles) (depth : Nat) (spot : Spot) (draft : Draft) (tokens : List Token) :
    Step NodeId (Rest tokens) :=
  match tokens with
  | .reference name :: rest =>
    match draft.anchors.lookup name with
    | some id => .ok (id, draft, .tail _ rest)
    | none => .error .malformed
  | start =>
    let (anchor, tag, rest) := properties start
    have := rest.2
    match Stated.read handles tag with
    | none => .error .malformed
    | some stated =>
      if anchor.any fun name => (draft.anchors.lookup name).isSome then .error .malformed
      else if hasContent spot rest.1 then
        match content handles depth stated (draft.name anchor) rest.1 with
        | .error error => .error error
        | .ok (id, drawn, left) => .ok (id, drawn, rest.andThen left)
      else if shorter : rest.1.length < start.length then
        .ok (draft.next, (draft.name anchor).add ⟨stated.ofScalar true "", .scalar ""⟩,
          ⟨rest.1, shorter⟩)
      else .error (unexpected start)
termination_by 5 * tokens.length + 1
decreasing_by all_goals omega

/-- A node, or the empty one if one of the tokens that may follow it is next. -/
def part (handles : Handles) (depth : Nat) (spot : Spot) (ends : List Token) (draft : Draft)
    (tokens : List Token) : Step NodeId (Remaining tokens) :=
  if tokens.head?.any fun token => ends.contains token then
    .ok (draft.next, draft.addEmpty, .all tokens)
  else match node handles depth spot draft tokens with
    | .error error => .error error
    | .ok (id, drawn, left) => .ok (id, drawn, left.remaining)
termination_by 5 * tokens.length + 2
decreasing_by all_goals omega

/-- A key, given the tokens after its mark, and its value. -/
def entry (handles : Handles) (depth : Nat) (spot : Spot) (ends : List Token) (draft : Draft)
    (tokens : List Token) : Step (NodeId × NodeId) (Remaining tokens) :=
  match part handles depth spot ends draft tokens with
  | .error error => .error error
  | .ok (key, drawn, ⟨.value :: rest, bound⟩) =>
    have : rest.length < tokens.length := bound
    match part handles depth spot ends drawn rest with
    | .error error => .error error
    | .ok (value, drawn, last) =>
      .ok ((key, value), drawn, (Rest.andMaybe ⟨rest, bound⟩ last).remaining)
  | .ok (key, drawn, rest) => .ok ((key, drawn.next), drawn.addEmpty, rest)
termination_by 5 * tokens.length + 3
decreasing_by all_goals omega

/-- The items of a flow sequence up to its end. A pair among them is a mapping of its own. -/
def flowItems (handles : Handles) (depth : Nat) (first : Bool) (draft : Draft)
    (tokens : List Token) : Step (List NodeId) (Rest tokens) :=
  match flowStep .flowSequenceEnd first tokens with
  | .error error => .error error
  | .ok (.inl left) => .ok ([], draft, left)
  | .ok (.inr ⟨.key :: rest, bound⟩) =>
    have : rest.length < tokens.length := bound
    let id := draft.next
    let begun := draft.add ⟨.mapping, .mapping []⟩
    match entry handles (depth - 1) .flow [.value, .flowEntry, .flowSequenceEnd] begun rest with
    | .error error => .error error
    | .ok (pair, drawn, left) =>
      have := left.2
      match flowItems handles depth false (drawn.fill id (.mapping [pair])) left.1 with
      | .error error => .error error
      | .ok (more, drawn, last) =>
        .ok (id :: more, drawn, (Rest.andMaybe ⟨rest, bound⟩ left).andThen last)
  | .ok (.inr start) =>
    have := start.2
    match node handles depth .flow draft start.1 with
    | .error error => .error error
    | .ok (item, drawn, left) =>
      have := left.2
      match flowItems handles depth false drawn left.1 with
      | .error error => .error error
      | .ok (more, drawn, last) =>
        .ok (item :: more, drawn, (start.andThen left).andThen last)
termination_by 5 * tokens.length + 2
decreasing_by all_goals omega

/-- The entries of a flow mapping up to its end. -/
def flowEntries (handles : Handles) (depth : Nat) (first : Bool) (draft : Draft)
    (tokens : List Token) : Step (List (NodeId × NodeId)) (Rest tokens) :=
  match flowStep .flowMappingEnd first tokens with
  | .error error => .error error
  | .ok (.inl left) => .ok ([], draft, left)
  | .ok (.inr ⟨.key :: rest, bound⟩) =>
    have : rest.length < tokens.length := bound
    match entry handles depth .flow [.value, .flowEntry, .flowMappingEnd] draft rest with
    | .error error => .error error
    | .ok (pair, drawn, left) =>
      have := left.2
      match flowEntries handles depth false drawn left.1 with
      | .error error => .error error
      | .ok (more, drawn, last) =>
        .ok (pair :: more, drawn, (Rest.andMaybe ⟨rest, bound⟩ left).andThen last)
  | .ok (.inr start) =>
    have := start.2
    match node handles depth .flow draft start.1 with
    | .error error => .error error
    | .ok (key, drawn, left) =>
      have := left.2
      match flowEntries handles depth false drawn.addEmpty left.1 with
      | .error error => .error error
      | .ok (more, later, last) =>
        .ok ((key, drawn.next) :: more, later, (start.andThen left).andThen last)
termination_by 5 * tokens.length + 2
decreasing_by all_goals omega

/-- The items of a block sequence up to its end. -/
def blockItems (handles : Handles) (depth : Nat) (draft : Draft) (tokens : List Token) :
    Step (List NodeId) (Rest tokens) :=
  match tokens with
  | .blockEnd :: rest => .ok ([], draft, .tail _ rest)
  | .blockEntry :: rest =>
    match part handles depth .block [.blockEntry, .blockEnd] draft rest with
    | .error error => .error error
    | .ok (item, drawn, left) =>
      have := left.2
      match blockItems handles depth drawn left.1 with
      | .error error => .error error
      | .ok (more, drawn, last) =>
        .ok (item :: more, drawn, (left.andThen last).past _)
  | other => .error (unexpected other)
termination_by 5 * tokens.length
decreasing_by all_goals simp only [List.length_cons] at *; omega

/-- The items of a sequence without indentation. -/
def looseItems (handles : Handles) (depth : Nat) (draft : Draft) (tokens : List Token) :
    Step (List NodeId) (Remaining tokens) :=
  match tokens with
  | .blockEntry :: rest =>
    match part handles depth .block looseEnds draft rest with
    | .error error => .error error
    | .ok (item, drawn, left) =>
      have := left.2
      match looseItems handles depth drawn left.1 with
      | .error error => .error error
      | .ok (more, drawn, last) =>
        .ok (item :: more, drawn, ((left.andMaybe last).past _).remaining)
  | rest => .ok ([], draft, ⟨rest, Nat.le_refl _⟩)
termination_by 5 * tokens.length
decreasing_by all_goals simp only [List.length_cons] at *; omega

/-- The entries of a block mapping up to its end. -/
def blockEntries (handles : Handles) (depth : Nat) (draft : Draft) (tokens : List Token) :
    Step (List (NodeId × NodeId)) (Rest tokens) :=
  match tokens with
  | .blockEnd :: rest => .ok ([], draft, .tail _ rest)
  | .key :: rest =>
    match entry handles depth .blockEntry [.key, .value, .blockEnd] draft rest with
    | .error error => .error error
    | .ok (pair, drawn, left) =>
      have := left.2
      match blockEntries handles depth drawn left.1 with
      | .error error => .error error
      | .ok (more, drawn, last) =>
        .ok (pair :: more, drawn, (left.andThen last).past _)
  | other => .error (unexpected other)
termination_by 5 * tokens.length
decreasing_by all_goals simp only [List.length_cons] at *; omega

end

/-! ## Documents -/

/-- The handles that are always known. -/
def standardHandles : Handles := [("!", "!"), ("!!", Tag.standard)]

/-- What the directives before a document say: whether its version was given, and its handles. -/
structure Preamble where
  versioned : Bool := false
  handles : Handles := []

/-- The directives at the start of tokens, added to those before, and the tokens after. Only
versions from one up to two are understood, and nothing may be said twice. -/
def preamble (said : Preamble) : List Token → Except Error (Preamble × List Token)
  | .directive (.version major) :: rest =>
    if said.versioned || major ≠ 1 then .error .malformed
    else preamble { said with versioned := true } rest
  | .directive (.handle name meaning) :: rest =>
    if (said.handles.lookup name).isSome then .error .malformed
    else preamble { said with handles := (name, meaning) :: said.handles } rest
  | .directive .unknown :: rest => preamble said rest
  | rest => .ok (said, rest)

/-- A document, given the tokens after it: nothing follows it but marks of its end. The directives
of another document are read before it is refused. -/
def closed (graph : Graph) (tokens : List Token) : Except Error (Option Graph) :=
  match tokens.dropWhile (· = .documentEnd) with
  | [] => .ok (some graph)
  | other =>
    match preamble {} other with
    | .error error => .error error
    | .ok (_, rest) => .error (unexpected rest)

/-- Whether a document that is started explicitly is empty. -/
def isVoid : List Token → Bool
  | [] | .directive _ :: _ | .documentStart :: _ | .documentEnd :: _ => true
  | _ => false

/-- The document without content. -/
def void : Graph := ⟨#[⟨.null, .scalar ""⟩], 0⟩

/-- The nodes of a document, given the tokens of its content and of what follows. -/
def body (handles : Handles) (tokens : List Token) : Except Error (Option Graph) :=
  match node (handles ++ standardHandles) maxDepth .block {} tokens with
  | .error error => .error error
  | .ok (root, drawn, left) => closed ⟨drawn.nodes, root⟩ left.1

/-- The only document that tokens form, if there is one. -/
def ofTokens (tokens : List Token) : Except Error (Option Graph) :=
  match tokens with
  | [] => .ok none
  | .directive _ :: _ | .documentStart :: _ =>
    match preamble {} tokens with
    | .error error => .error error
    | .ok (said, .documentStart :: rest) =>
      if isVoid rest then closed void rest else body said.handles rest
    | .ok (_, other) => .error (unexpected other)
  | _ => body [] tokens

end Graph

end Bindery.Format.Yaml
