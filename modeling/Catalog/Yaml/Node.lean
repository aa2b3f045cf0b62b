import Catalog.Yaml.Token

/-!
The node that a YAML text describes. A text may hold one document; an alias stands for the node
last anchored under its name.
-/
namespace Catalog.Yaml

inductive Node where
  /-- A scalar as it reads, its resolved tag, and whether it was written plain or as a literal
  block. -/
  | scalar (text : String) (tag : Option String) (plain literal : Bool)
  | sequence (items : List Node)
  | mapping (members : List (Node × Node))
  deriving Repr, Inhabited

namespace Node

/-- The node where nothing is written. -/
def empty : Node := .scalar "" none true false

def isEmpty : Node → Bool
  | .scalar text _ plain _ => text.isEmpty && plain
  | _ => false

end Node

/-- What is still to be read, the nodes anchored so far, latest first, and what the handles of tags
mean. -/
structure Reading where
  tokens : List Token
  anchors : List (String × Node) := []
  handles : List (String × String) := []

/-- The handles that need no directive. -/
def commonHandles : List (String × String) := [("!", "!"), ("!!", "tag:yaml.org,2002:"), ("", "")]

abbrev Reader := StateT Reading Option

namespace Reader

def refuse : Reader α := fun _ => none

def peek : Reader (Option Token) := fun r => some (r.tokens.head?, r)

def skip : Reader Unit := fun r => some ((), { r with tokens := r.tokens.tail })

def takes (t : Token) : Reader Bool := do
  if (← peek) == some t then
    skip
    pure true
  else pure false

def isAt (ts : List Token) : Reader Bool := do
  match ← peek with
  | some t => pure (ts.contains t)
  | none => pure false

/-- What may stand before a node: its anchor and its tag, each at most once. -/
structure Properties where
  anchor : Option String := none
  tag : Option (String × String) := none

/-- The properties at this place. -/
def properties : Nat → Properties → Reader Properties
  -- The fuel bounds the number of properties.
  | 0, p => pure p
  | fuel + 1, p => do
    match ← peek, p.anchor, p.tag with
    | some (.anchor name), none, _ => do
      skip
      properties fuel { p with anchor := some name }
    | some (.tag handle suffix), _, none => do
      skip
      properties fuel { p with tag := some (handle, suffix) }
    | _, _, _ => pure p

/-- The tag that a handle and a suffix spell. -/
def resolve (tag : Option (String × String)) : Reader (Option String) := fun r =>
  match tag with
  | none => some (none, r)
  | some (handle, suffix) =>
    match (r.handles ++ commonHandles).lookup handle with
    | some meaning => some (some (meaning ++ suffix), r)
    | none => none

def remember (anchor : Option String) (n : Node) : Reader Node := fun r =>
  match anchor with
  | some name => some (n, { r with anchors := (name, n) :: r.anchors })
  | none => some (n, r)

def aliased (name : String) : Reader Node := fun r => (r.anchors.lookup name).map fun n => (n, r)

mutual

/-- The node at this place. -/
def node (block bare : Bool) : Nat → Reader Node
  -- The fuel bounds the number of steps.
  | 0 => refuse
  | fuel + 1 => do
    match ← peek with
    | some (.alias name) => do
      skip
      aliased name
    | _ => do
      let p ← properties 2 {}
      let tag ← resolve p.tag
      let start ← peek
      let n ← match start with
        | some (.scalar text plain literal) => do
          skip
          pure (Node.scalar text tag plain literal)
        | some .openSequence => do
          skip
          pure (Node.sequence (← flowItems true fuel))
        | some .openMapping => do
          skip
          pure (Node.mapping (← flowMembers true fuel))
        -- A sequence without indentation of its own is read only as part of a mapping.
        | some .entry =>
          if bare then do pure (Node.sequence (← bareItems fuel))
          else if p.anchor.isSome || p.tag.isSome then pure (Node.scalar "" tag true false)
          else refuse
        | some .blockSequence =>
          if block then do
            skip
            pure (Node.sequence (← blockItems fuel))
          else refuse
        | some .blockMapping =>
          if block then do
            skip
            pure (Node.mapping (← blockMembers fuel))
          else refuse
        | _ =>
          if p.anchor.isSome || p.tag.isSome then pure (Node.scalar "" tag true false)
          else refuse
      remember p.anchor n

/-- A node, or nothing where one of the given tokens stands. -/
def nodeUnless (stops : List Token) (block bare : Bool) : Nat → Reader Node
  | 0 => refuse
  | fuel + 1 => do
    if (← isAt stops) then pure Node.empty else node block bare fuel

/-- The items of a block sequence up to its end. -/
def blockItems : Nat → Reader (List Node)
  | 0 => refuse
  | fuel + 1 => do
    if (← takes .entry) then do
      let item ← nodeUnless [.entry, .blockEnd] true false fuel
      pure (item :: (← blockItems fuel))
    else if (← takes .blockEnd) then pure []
    else refuse

/-- The items of a sequence that stands no deeper than the mapping around it. -/
def bareItems : Nat → Reader (List Node)
  | 0 => refuse
  | fuel + 1 => do
    if (← takes .entry) then do
      let item ← nodeUnless [.entry, .key, .value, .blockEnd] true false fuel
      pure (item :: (← bareItems fuel))
    else pure []

/-- The members of a block mapping up to its end. -/
def blockMembers : Nat → Reader (List (Node × Node))
  | 0 => refuse
  | fuel + 1 => do
    if (← takes .blockEnd) then pure []
    else if (← takes .key) then do
      let stops : List Token := [.key, .value, .blockEnd]
      let name ← nodeUnless stops true true fuel
      let meant ← if (← takes .value) then nodeUnless stops true true fuel else pure Node.empty
      pure ((name, meant) :: (← blockMembers fuel))
    else refuse

/-- The items of a sequence in brackets; a key among them makes a mapping of one member. -/
def flowItems (first : Bool) : Nat → Reader (List Node)
  | 0 => refuse
  | fuel + 1 => do
    if (← takes .closeSequence) then pure []
    else if !first && !(← takes .separator) then refuse
    else if (← takes .closeSequence) then pure []
    else if (← takes .key) then do
      let name ← nodeUnless [.value, .separator, .closeSequence] false false fuel
      let meant ← if (← takes .value) then
          nodeUnless [.separator, .closeSequence] false false fuel
        else pure Node.empty
      pure (Node.mapping [(name, meant)] :: (← flowItems false fuel))
    else do
      let item ← node false false fuel
      pure (item :: (← flowItems false fuel))

/-- The members of a mapping in brackets. -/
def flowMembers (first : Bool) : Nat → Reader (List (Node × Node))
  | 0 => refuse
  | fuel + 1 => do
    if (← takes .closeMapping) then pure []
    else if !first && !(← takes .separator) then refuse
    else if (← takes .closeMapping) then pure []
    else if (← takes .key) then do
      let name ← nodeUnless [.value, .separator, .closeMapping] false false fuel
      let meant ← if (← takes .value) then
          nodeUnless [.separator, .closeMapping] false false fuel
        else pure Node.empty
      pure ((name, meant) :: (← flowMembers false fuel))
    else do
      let name ← node false false fuel
      pure ((name, Node.empty) :: (← flowMembers false fuel))

end

/-- The directives before a document. -/
def directives : Nat → Reader Bool
  -- The fuel bounds the number of directives.
  | 0 => pure false
  | fuel + 1 => do
    match ← peek with
    | some .version => do
      skip
      let _ ← directives fuel
      pure true
    | some (.tagName handle meaning) => do
      skip
      modify fun r => { r with handles := (handle, meaning) :: r.handles }
      let _ ← directives fuel
      pure true
    | _ => pure false

/-- The marks after a document. -/
def endMarks : Nat → Reader Unit
  -- The fuel bounds the number of marks.
  | 0 => pure ()
  | fuel + 1 => do
    if (← takes .documentEnd) then endMarks fuel else pure ()

/-- The only document; none if there is more. -/
def document (fuel : Nat) : Reader Node := do
  let directed ← directives fuel
  let marked ← takes .documentStart
  if directed && !marked then refuse
  else do
    let start ← peek
    let n ← if start.isNone || (marked && start == some .documentEnd) then pure Node.empty
      else node true false fuel
    endMarks fuel
    match ← peek with
    | none => pure n
    | some _ => refuse

end Reader

/-- The node of a text that holds one document. -/
def Node.ofText? (text : String) : Option Node := do
  let tokens ← tokens? text
  let (n, _) ← (Reader.document (3 * tokens.length + 3)).run { tokens := tokens }
  some n

end Catalog.Yaml
