import Tabula.Json.Path
import Tabula.Sql.Error

/-!
# JSON functions

The engine's JSON functions read their first argument as a JSON document (its text up to the
first NUL; `NULL` gives `NULL`) and fail with `malformed JSON` when it is not one. A path
argument that is malformed where it is followed fails with `JSON path error near '…'`.

Values go into JSON as follows: `NULL` as `null`, a number as its text, a text as a JSON
string, unless it came from a JSON function that gives JSON text, in which case it goes in as
that JSON; a blob cannot go in. Values come out of JSON as `NULL`, the integers 1 and 0 for
`true` and `false`, an integer (a double when it does not fit 64 bits), a double, a text with
its escapes undone, or, for an array or an object, its compact JSON text.

The table functions `json_each` and `json_tree` give a row for each member or item of the
document's top value (or of the value a root path leads to), and for every value below it
too for `json_tree`.
-/

namespace Tabula.Sql

open Tabula.Json

/-- A value together with whether it is JSON text given by a JSON function, which the JSON
functions then take as JSON rather than as a string. -/
structure Tagged where
  value : Value
  json : Bool
  deriving Inhabited

/-- A value that is not JSON text. -/
def Tagged.plain (v : Value) : Tagged := ⟨v, false⟩

/-- The error of a document that does not read as JSON. -/
def malformedJson : EngineError := .functionError "malformed JSON"

/-- The error of a malformed path, given the path from the malformed step on. -/
def pathError (rest : List UInt8) : EngineError :=
  let text := String.ofList (Text.lenientChars rest)
  .functionError ("JSON path error near '" ++ text.replace "'" "''" ++ "'")

/-- The error of a blob put into JSON. -/
def blobInJson : String := "JSON cannot hold BLOB values"

/-- The text a JSON function reads from a value: its text up to the first NUL. -/
def jsonInput (v : Value) : Option (List UInt8) := v.toText?.map Text.untilNul

/-- The document a value holds, if it is not `NULL`. -/
def documentOf (v : Value) : Except EngineError (Option Node) :=
  match jsonInput v with
  | none => pure none
  | some text =>
    match parse text with
    | some doc => pure (some doc)
    | none => throw malformedJson

/-- A value written as JSON. -/
def writeValue (t : Tagged) : Except String (List UInt8) :=
  match t.value with
  | .null => pure nullWord
  | .integer _ | .real _ => pure (t.value.toText?.getD [])
  | .text bs => pure (if t.json then bs else quoteBytes bs)
  | .blob _ => throw blobInJson

/-- Writes a document whose written arguments are among `args`. -/
def renderWith (args : List Tagged) (doc : Node) : Except EngineError (List UInt8) :=
  match doc.render (fun i => writeValue (args.getD i default)) (doc.slots + 1) with
  | .ok bs => pure bs
  | .error m => throw (.functionError m)

/-- The integer a JSON integer spells; a double when it does not fit 64 bits. -/
def jsonInteger (text : List UInt8) : Value :=
  let neg := text.head? == some 0x2d
  let ds := (if neg then text.drop 1 else text).takeWhile Json.isDigit
  let v : Nat := ds.foldl (fun v d => v * 10 + (d.toNat - 0x30)) 0
  if (neg && v ≤ Nat.pow 2 63) || (!neg && v < Nat.pow 2 63) then
    .integer (if neg then -(v : Int) else (v : Int))
  else .real (readReal (text.map fun b => Char.ofNat b.toNat)).2

/-- The value a JSON value stands for as a result. -/
def resultOf (doc : Node) : Except EngineError Tagged :=
  match doc with
  | .null => pure (.plain .null)
  | .bool b => pure (.plain (.integer (if b then 1 else 0)))
  | .integer t => pure (.plain (jsonInteger t))
  | .real t => pure (.plain (.real (readReal (t.map fun b => Char.ofNat b.toNat)).2))
  | .string raw escaped => pure (.plain (.text (if escaped then unescape raw else raw)))
  | n => do pure ⟨.text (← renderWith [] n), true⟩

/-- A document written as a JSON result. -/
def jsonResult (args : List Tagged) (doc : Node) : Except EngineError Tagged := do
  pure ⟨.text (← renderWith args doc), true⟩

/-- Follows a path in a document, failing on a malformed path. -/
def followIn (edit : Bool → Node → Node) (append : Bool) (path : List UInt8) (doc : Node) :
    Except EngineError (Option Found) :=
  match doc.follow edit append path with
  | .ok r => pure r
  | .error rest => throw (pathError rest)

/-- The value a path leads to in a document, if the path is not `NULL` and leads anywhere. -/
def lookupValue (doc : Node) (path : Value) : Except EngineError (Option Node) := do
  match jsonInput path with
  | none => pure none
  | some p => pure ((← followIn (fun _ n => n) false p doc).map (·.target))

/-- `json_remove(X, P...)`, and `json(X)` with no path: the document with the values the paths
lead to taken out, in turn. A `NULL` path, or taking out the whole document, gives `NULL`. -/
def jsonRemove : List Tagged → Except EngineError Tagged
  | [] => pure (.plain .null)
  | x :: paths => do
    match ← documentOf x.value with
    | none => pure (.plain .null)
    | some doc =>
      let step : Option Node → Tagged → Except EngineError (Option Node) := fun acc p => do
        match acc, jsonInput p.value with
        | none, _ => pure none
        | some _, none => pure none
        | some d, some path =>
          match ← followIn (fun _ n => n.markRemoved) false path d with
          | some f => pure (some f.doc)
          | none => pure (some d)
      match ← paths.foldlM step (some doc) with
      | none => pure (.plain .null)
      | some d => if d.isRemoved then pure (.plain .null) else jsonResult [] d

/-- How `json_insert`, `json_replace` and `json_set` treat a path: whether a value already
there is overwritten, and whether a missing one is added. -/
inductive SetMode where
  | insert
  | replace
  | set
  deriving BEq

/-- The name a set mode is called by. -/
def SetMode.word : SetMode → String
  | .insert => "insert"
  | .replace => "replace"
  | .set => "set"

/-- The paths and value positions of the arguments after the document: pairs of a path and
the index of its value. -/
def pathPairs : Nat → List Tagged → List (Tagged × Nat)
  | i, p :: _ :: rest => (p, i + 1) :: pathPairs (i + 2) rest
  | _, _ => []

/-- `json_insert`, `json_replace` and `json_set`: the document with each path's value written
at its end, in turn. Written over the whole document, the result is the value itself. -/
def jsonSet (mode : SetMode) (args : List Tagged) : Except EngineError Tagged := do
  match args with
  | [] => pure (.plain .null)
  | x :: rest =>
    if args.length % 2 == 0 then
      throw (.functionError ("json_" ++ mode.word ++ "() needs an odd number of arguments"))
    match ← documentOf x.value with
    | none => pure (.plain .null)
    | some doc =>
      let step : Node → Tagged × Nat → Except EngineError Node := fun d (p, i) => do
        match jsonInput p.value with
        | none => pure d
        | some path =>
          let edit := fun (added : Bool) (n : Node) =>
            if added || mode != .insert then Node.written i else n
          match ← followIn edit (mode != .replace) path d with
          | some f => pure f.doc
          | none => pure d
      match ← (pathPairs 1 rest).foldlM step doc with
      | .written i => pure (args.getD i default)
      | d => jsonResult args d

/-- `json_extract(X, P...)`: with one path, the value it leads to; with several, a JSON array
of what each leads to (`null` where nothing). -/
def jsonExtract : List Tagged → Except EngineError Tagged
  | [] | [_] => pure (.plain .null)
  | x :: paths => do
    match ← documentOf x.value with
    | none => pure (.plain .null)
    | some doc =>
      match paths with
      | [p] =>
        match ← lookupValue doc p.value with
        | some n => resultOf n
        | none => pure (.plain .null)
      | _ =>
        let parts ← paths.mapM fun p => do
          match ← lookupValue doc p.value with
          | some n => renderWith [] n
          | none => pure nullWord
        pure ⟨.text (0x5b :: joinComma parts ++ [0x5d]), true⟩

/-- The full path an operator's right side abbreviates: a path starting with `$` as it is, a
number `N` as `$[N]`, `[…]` as `$[…]`, and anything else as a label. -/
def abbreviatedPath (p : List UInt8) : List UInt8 :=
  match p with
  | c :: _ =>
    if c == 0x24 then p
    else if Json.isDigit c then 0x24 :: 0x5b :: p ++ [0x5d]
    else if c == 0x5b then 0x24 :: p
    else 0x24 :: 0x2e :: p
  | [] => [0x24, 0x2e]

/-- `X -> P` and `X ->> P`: the value an abbreviated path leads to, as JSON text for `->` and
as a value for `->>`. -/
def jsonArrow (asValue : Bool) (x p : Tagged) : Except EngineError Tagged := do
  match ← documentOf x.value with
  | none => pure (.plain .null)
  | some doc =>
    match jsonInput p.value with
    | none => pure (.plain .null)
    | some path =>
      match ← followIn (fun _ n => n) false (abbreviatedPath path) doc with
      | none => pure (.plain .null)
      | some f =>
        if asValue then do pure (.plain (← resultOf f.target).value)
        else jsonResult [] f.target

/-- Values written as the items of a JSON array. -/
def jsonArray (args : List Tagged) : Except EngineError Tagged :=
  match args.mapM writeValue with
  | .ok parts => pure ⟨.text (0x5b :: joinComma parts ++ [0x5d]), true⟩
  | .error m => throw (.functionError m)

/-- Labels and values written as the members of a JSON object; every label must be a text. -/
def jsonObject (args : List Tagged) : Except EngineError Tagged := do
  if args.length % 2 == 1 then
    throw (.functionError "json_object() requires an even number of arguments")
  let pairs := pathPairs 0 args
  if pairs.any fun (l, _) => !(l.value matches .text _) then
    throw (.functionError "json_object() labels must be TEXT")
  let parts := pairs.mapM fun (l, i) => do
    let v ← writeValue (args.getD i default)
    pure (quoteBytes ((l.value.toText?).getD []) ++ 0x3a :: v)
  match parts with
  | .ok parts => pure ⟨.text (0x7b :: joinComma parts ++ [0x7d]), true⟩
  | .error m => throw (.functionError m)

/-- The JSON type of the value a document (or a path in it) leads to. -/
def jsonType (args : List Tagged) : Except EngineError Tagged := do
  match args with
  | x :: rest =>
    match ← documentOf x.value with
    | none => pure (.plain .null)
    | some doc =>
      let target ← match rest with
        | p :: _ => lookupValue doc p.value
        | [] => pure (some doc)
      pure (.plain ((target.map fun n => Value.ofString n.typeName).getD .null))
  | [] => pure (.plain .null)

/-- The number of items of the array a document (or a path in it) leads to; 0 for any other
value. -/
def jsonArrayLength (args : List Tagged) : Except EngineError Tagged := do
  match args with
  | x :: rest =>
    match ← documentOf x.value with
    | none => pure (.plain .null)
    | some doc =>
      let target ← match rest with
        | p :: _ => lookupValue doc p.value
        | [] => pure (some doc)
      pure (.plain (match target with
        | some (.array items) => .integer (items.filter (!·.isRemoved)).length
        | some _ => .integer 0
        | none => .null))
  | [] => pure (.plain .null)

/-- `json_patch(T, P)`: the document `T` with the merge patch `P` applied. -/
def jsonPatch (args : List Tagged) : Except EngineError Tagged := do
  match args with
  | [t, p] =>
    match ← documentOf t.value with
    | none => pure (.plain .null)
    | some target =>
      match ← documentOf p.value with
      | none => pure (.plain .null)
      | some patch =>
        jsonResult [] (mergePatch (target.slots + patch.slots + 1) target patch)
  | _ => pure (.plain .null)

/-- The JSON functions and the numbers of arguments they take. -/
def jsonArities : List (String × (Nat → Bool)) :=
  [("json", (· == 1)), ("json_array", fun _ => true),
   ("json_array_length", fun n => n = 1 || n = 2),
   ("json_extract", fun _ => true), ("json_insert", fun _ => true),
   ("json_object", fun _ => true), ("json_patch", (· == 2)), ("json_quote", (· == 1)),
   ("json_remove", fun _ => true), ("json_replace", fun _ => true), ("json_set", fun _ => true),
   ("json_type", fun n => n = 1 || n = 2), ("json_valid", (· == 1))]

/-- Whether a function name (in small letters) is a JSON function. -/
def isJsonFunction (name : String) : Bool := (jsonArities.lookup name).isSome

/-- Calls a JSON function, by its name in small letters. -/
def applyJson (name : String) (args : List Tagged) : Except EngineError Tagged :=
  match name, args with
  | "json", _ => jsonRemove (args.take 1)
  | "json_remove", _ => jsonRemove args
  | "json_array", _ => jsonArray args
  | "json_array_length", _ => jsonArrayLength args
  | "json_extract", _ => jsonExtract args
  | "json_insert", _ => jsonSet .insert args
  | "json_replace", _ => jsonSet .replace args
  | "json_set", _ => jsonSet .set args
  | "json_object", _ => jsonObject args
  | "json_patch", _ => jsonPatch args
  | "json_quote", [v] =>
    match writeValue v with
    | .ok bs => pure ⟨.text bs, true⟩
    | .error m => throw (.functionError m)
  | "json_type", _ => jsonType args
  | "json_valid", [v] =>
    pure (.plain (.integer (match jsonInput v.value with
      | some text => if (parse text).isSome then 1 else 0
      | none => 0)))
  | _, _ => pure (.plain .null)

/-- A label as a path step: `.label` when it is a letter followed by letters and digits, else
the label between its quotes. -/
def pathElement (l : Label) : List UInt8 :=
  match l.bytes with
  | c :: rest =>
    if isLetter c && rest.all isAlnum then 0x2e :: l.bytes
    else 0x2e :: 0x22 :: l.bytes ++ [0x22]
  | [] => [0x2e, 0x22, 0x22]

/-- An array step `[k]`. -/
def indexElement (k : Nat) : List UInt8 := 0x5b :: Text.encode (toString k) ++ [0x5d]

/-- Where the top value of a `json_each` or `json_tree` stands in its document: the value,
its place number, the label that leads to it if an object holds it, its own path and the path
of the value holding it. Paths through arrays above it name item `0`, whatever the item. -/
structure Spot where
  node : Node
  id : Nat
  label : Option Label
  path : List UInt8
  parentPath : List UInt8

/-- Walks the positions a path took from a value at a place, with the path so far. -/
def walkRoute : List Nat → Node → Nat → Option Label → List UInt8 → List UInt8 → Spot
  | [], n, id, label, path, parentPath => ⟨n, id, label, path, parentPath⟩
  | k :: rest, n, id, label, path, parentPath =>
    match n with
    | .array items =>
      match items[k]? with
      | some v =>
        walkRoute rest v (id + 1 + itemsSlots (items.take k)) none (path ++ indexElement 0) path
      | none => ⟨n, id, label, path, parentPath⟩
    | .object ms =>
      match ms[k]? with
      | some (l, v) =>
        walkRoute rest v (id + 2 + membersSlots (ms.take k)) (some l) (path ++ pathElement l) path
      | none => ⟨n, id, label, path, parentPath⟩
    | _ => ⟨n, id, label, path, parentPath⟩

/-- The columns of a row of `json_each` or `json_tree` before the hidden ones: the key, the
value, its type, its value again when it is not a container, its place number, the place
number of the value holding it, its full path, and the path of the value holding it. -/
def eachRow (key : Value) (n : Node) (id : Nat) (parent : Value) (fullkey path : List UInt8) :
    Except EngineError (List Value) := do
  let v := (← resultOf n).value
  pure [key, v, .ofString n.typeName, if n.isContainer then .null else v, .integer id, parent,
    .text fullkey, .text path]

/-- The text of a label, its escapes undone. -/
def labelValue (l : Label) : Value := .text (unescape l.bytes)

/-- The rows of the values below a value of `json_tree`, in reading order: each member or
item, then the values below it. -/
def treeRows : Nat → Node → Nat → List UInt8 → Except EngineError (List (List Value))
  | 0, _, _, _ => pure []
  | fuel + 1, n, id, path =>
    match n with
    | .array items =>
      (items.zipIdx.map fun (v, k) => (v, k, id + 1 + itemsSlots (items.take k))).flatMapM
        fun (v, k, cid) => do
          let full := path ++ indexElement k
          let row ← eachRow (.integer k) v cid (.integer id) full path
          pure (row :: (← treeRows fuel v cid full))
    | .object ms =>
      (ms.zipIdx.map fun ((l, v), k) => (l, v, id + 2 + membersSlots (ms.take k))).flatMapM
        fun (l, v, cid) => do
          let full := path ++ pathElement l
          let row ← eachRow (labelValue l) v cid (.integer id) full path
          pure (row :: (← treeRows fuel v cid full))
    | _ => pure []

/-- The rows of `json_each` (or of `json_tree` when `recursive`) for its arguments: the
document and, if given, the root path. Each row has the visible columns and then the hidden
ones, the document's text and the root path. -/
def jsonTableRows (recursive : Bool) (args : List Value) :
    Except EngineError (List (List Value)) := do
  match args with
  | [] => pure []
  | x :: rest =>
    match jsonInput x with
    | none => pure []
    | some text =>
      let doc ← match parse text with
        | some d => pure d
        | none => throw malformedJson
      let root ← match rest with
        | [] => pure (some (doc, [], none))
        | r :: _ =>
          match jsonInput r with
          | none => pure none
          | some zRoot =>
            match zRoot with
            | c :: steps =>
              if c != 0x24 then throw (pathError zRoot)
              else
                match doc.locate (fun _ n => n) false (2 * zRoot.length + 2) steps with
                | .error e => throw (pathError e)
                | .ok none => pure none
                | .ok (some f) => pure (some (f.target, f.route, some zRoot))
            | [] => throw (pathError zRoot)
      match root with
      | none => pure []
      | some (target, route, zRoot) =>
        let rootText := zRoot.getD [0x24]
        let hidden : List Value := [.text text, .text rootText]
        let spot := walkRoute route doc 0 none [0x24] [0x24]
        let rows ← if recursive then do
            let key : Value := match spot.label with
              | some l => if target.isContainer then labelValue l else .null
              | none => .null
            let first ← eachRow key target spot.id .null spot.path spot.parentPath
            pure (first :: (← treeRows (target.slots + 1) target spot.id spot.path))
          else
            match target with
            | .array items =>
              (items.zipIdx.map fun (v, k) => (v, k, spot.id + 1 + itemsSlots (items.take k))).mapM
                fun (v, k, cid) => eachRow (.integer k) v cid .null (rootText ++ indexElement k)
                  rootText
            | .object ms =>
              (ms.zipIdx.map fun ((l, v), k) => (l, v, spot.id + 2 + membersSlots (ms.take k))).mapM
                fun (l, v, cid) => eachRow (labelValue l) v cid .null (rootText ++ pathElement l)
                  rootText
            | _ => do pure [← eachRow .null target spot.id .null rootText rootText]
        pure (rows.map (· ++ hidden))

end Tabula.Sql
