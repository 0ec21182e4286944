import Tabula.Json.Node

/-!
# Paths into JSON documents

A path starts with `$`, the whole document, and goes on with steps:

* `.label` or `."label"`: the member of an object with that label, the first if several have
  it. Unquoted, the label runs to the next `.` or `[`; quoted, to the next quote, with no
  escapes. Labels compare as the bytes they were written with.
* `[N]`: the item of an array at index `N`, from 0;
* `[#]` and `[#-N]`: the place after the last item, and the item `N` places before it.

A path is read as it is followed: a step that leads nowhere (a label on a value that is not an
object, an index past the end) ends the search before the rest of the path is read, so only a
malformed step that is reached is an error. The error holds the path from that step on.

Following a path may also edit the document at its end. An edit that may add (`append`)
supplies a missing last member or item: a member with the label, or an item where the index
is the number of items; after the first missing step, each `.label` step builds a new object
and each `[0]` step a new array, down to the end. A step of any other form there adds
nothing. An argument already written in place of a value leads nowhere further.
-/

namespace Tabula.Json

/-- What following a path found: the document with the edit made at the path's end, the
value there after the edit, whether the edit added it, and the positions taken from the top
(an item's index among all items, or a member's among all members). -/
structure Found where
  doc : Node
  target : Node
  appended : Bool
  route : List Nat

/-- A value without its mark of removal: a path leads into a value taken out as into any
other. -/
def Node.content : Node → Node
  | .removed n => n
  | n => n

/-- A changed value under the mark of removal the old one had. -/
def Node.keepMark (old new : Node) : Node :=
  match old with
  | .removed _ => .removed new
  | _ => new

/-- Reads the label of a `.` step from the bytes after the dot: the label and the rest of the
path, or the path from the label on when there is no label or its closing quote is
missing. -/
def readLabel (path : List UInt8) : Except (List UInt8) (List UInt8 × List UInt8) :=
  match path with
  | c :: rest =>
    if c == 0x22 then
      let key := rest.takeWhile (· != 0x22)
      match rest.drop key.length with
      | _ :: after => pure (key, after)
      | [] => throw path
    else
      let key := path.takeWhile fun b => b != 0x2e && b != 0x5b
      if key.isEmpty then throw path else pure (key, path.drop key.length)
  | [] => throw path

/-- The number a run of digits spells, kept to 32 bits. -/
def digitsValue (ds : List UInt8) : Nat :=
  ds.foldl (fun v d => (v * 10 + (d.toNat - 0x30)) % Nat.pow 2 32) 0

/-- Reads an index step from the bytes after its bracket, given whether the value is an array
and how many items it has: the index and the rest of the path, `none` when the step names no
item (`[#...]` on a value that is not an array, `[#-N]` before the first item), or the path
from the bracket on when the step is malformed. -/
def readIndex (isArray : Bool) (count : Nat) (path : List UInt8) :
    Except (List UInt8) (Option (Nat × List UInt8)) :=
  let ds := path.takeWhile isDigit
  let bad : Except (List UInt8) (Option (Nat × List UInt8)) := throw (0x5b :: path)
  let closed := fun (n : Nat) (bs : List UInt8) =>
    match bs with
    | c :: after => if c == 0x5d then pure (some (n, after)) else bad
    | [] => bad
  match ds, path.drop ds.length with
  | _ :: _, c :: after =>
    if c == 0x5d then pure (some (digitsValue ds, after)) else bad
  | _, _ =>
    match path with
    | h :: more =>
      if h != 0x23 then bad
      else if !isArray then pure none
      else
        match more with
        | m :: d :: tail =>
          if m == 0x2d && isDigit d then
            let xs := (d :: tail).takeWhile isDigit
            let x := digitsValue xs
            if x > count then pure none else closed (count - x) ((d :: tail).drop xs.length)
          else closed count more
        | _ => closed count more
    | [] => bad

/-- The position among all items of the item with index `i` among the items not taken
out. -/
def liveIndex (items : List Node) (i : Nat) : Option Nat :=
  ((items.zipIdx.filter fun (n, _) => !n.isRemoved).map (·.2))[i]?

mutual

/-- Follows the steps of a path (after the `$`) from a value, making `edit` at the end: it is
told whether the value there was added. The fuel bounds the steps. -/
def Node.locate (edit : Bool → Node → Node) (append : Bool) :
    Nat → List UInt8 → Node → Except (List UInt8) (Option Found)
  | 0, _, _ => pure none
  | fuel + 1, path, node =>
    match path with
    | [] =>
      let n := edit false node
      pure (some ⟨n, n, false, []⟩)
    | c :: rest =>
      if node matches .written _ then pure none
      else if c == 0x2e then
        match node.content with
        | .object ms => do
          let (key, after) ← readLabel rest
          match ms.findIdx? (·.1.bytes == key), ms.find? (·.1.bytes == key) with
          | some i, some (l, v) =>
            match ← Node.locate edit append fuel after v with
            | some f =>
              pure (some { f with doc := node.keepMark (.object (ms.set i (l, f.doc))),
                                  route := i :: f.route })
            | none => pure none
          | _, _ =>
            if !append then pure none
            else
              match ← extendPath edit fuel after with
              | some f =>
                let doc := node.keepMark (.object (ms ++ [(⟨key, true⟩, f.doc)]))
                pure (some { f with doc, route := ms.length :: f.route })
              | none => pure none
        | _ => pure none
      else if c == 0x5b then do
        let items := match node.content with
          | .array items => items
          | _ => []
        let isArray := node.content matches .array _
        let count := (items.filter (!·.isRemoved)).length
        match ← readIndex isArray count rest with
        | none => pure none
        | some (i, after) =>
          if !isArray then pure none
          else
            match liveIndex items i with
            | some k =>
              match items[k]? with
              | some v =>
                match ← Node.locate edit append fuel after v with
                | some f =>
                  pure (some { f with doc := node.keepMark (.array (items.set k f.doc)),
                                      route := k :: f.route })
                | none => pure none
              | none => pure none
            | none =>
              if i == count && append then
                match ← extendPath edit fuel after with
                | some f =>
                  pure (some { f with doc := node.keepMark (.array (items ++ [f.doc])),
                                      route := items.length :: f.route })
                | none => pure none
              else pure none
      else throw path

/-- Builds what the rest of a path needs after its first missing step, the edit made at the
end: nothing more at the end, a new object for a `.` step, a new array for a `[0]` step;
anything else adds nothing. -/
def extendPath (edit : Bool → Node → Node) :
    Nat → List UInt8 → Except (List UInt8) (Option Found)
  | 0, _ => pure none
  | fuel + 1, path =>
    match path with
    | [] =>
      let n := edit true .null
      pure (some ⟨n, n, true, []⟩)
    | c :: rest =>
      if c == 0x2e then Node.locate edit true fuel path (.object [])
      else if c == 0x5b && rest.take 2 == [0x30, 0x5d] then
        Node.locate edit true fuel path (.array [])
      else pure none

end

/-- Follows a whole path in a document, making `edit` at its end (adding what is missing when
`append`): the path must start with `$`, else it is malformed from its start. -/
def Node.follow (edit : Bool → Node → Node) (append : Bool) (path : List UInt8) (doc : Node) :
    Except (List UInt8) (Option Found) :=
  match path with
  | c :: rest =>
    if c == 0x24 then doc.locate edit append (2 * path.length + 2) rest else throw path
  | [] => throw path

/-- Looks a path up in a document: the value it leads to and the positions taken, if any. -/
def Node.lookup (path : List UInt8) (doc : Node) : Except (List UInt8) (Option Found) :=
  doc.follow (fun _ n => n) false path

end Tabula.Json
