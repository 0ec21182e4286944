/-!
# The language toolkit

The `noun` and `nounphrase` conversions hand a cell's text to a language toolkit: a word
tokenizer, a part-of-speech tagger, and a chunker built from a grammar, which parses tagged
words into a tree. The toolkit is no part of the program, so it is a parameter (`Toolkit`);
each of its operations may raise an error of its own, which ends the run.

* `nounWords`: the words tagged `NN` or `NNP`, joined by `|`.
* `nounPhrases`: for each `NP` or `CHUNK` node of the chunk tree, its words joined by spaces;
  the phrases joined by `|`.

Both first turn every run of the characters `[]|!$%&()-_=+\/` into one space (`scrub`).
`Toolkit.unavailable` is the toolkit of an installation that lacks it: every operation raises
an `ImportError`.
-/

namespace Tabula.Query

/-- An error raised inside the toolkit: the kind of the exception and its message. -/
structure ToolkitError where
  kind : String
  message : String
  deriving Repr, BEq, DecidableEq

/-- A tree the chunker gives: tagged words under labelled nodes. -/
inductive ChunkTree where
  | word (text tag : String)
  | node (label : String) (children : List ChunkTree)
  deriving Repr

mutual
/-- The tagged words of a tree, in order. -/
def ChunkTree.leaves : ChunkTree → List (String × String)
  | .word w t => [(w, t)]
  | .node _ cs => ChunkTree.leavesOf cs

/-- The tagged words of a row of trees, in order. -/
def ChunkTree.leavesOf : List ChunkTree → List (String × String)
  | [] => []
  | t :: ts => t.leaves ++ ChunkTree.leavesOf ts
end

mutual
/-- The nodes of a tree, each as its label and its tagged words: the tree itself first, then
the nodes of each child in turn. A word is no tree and has none. -/
def ChunkTree.subtrees : ChunkTree → List (String × List (String × String))
  | .word _ _ => []
  | .node l cs => (l, ChunkTree.leavesOf cs) :: ChunkTree.subtreesOf cs

/-- The nodes of a row of trees, in order. -/
def ChunkTree.subtreesOf : List ChunkTree → List (String × List (String × String))
  | [] => []
  | t :: ts => t.subtrees ++ ChunkTree.subtreesOf ts
end

/-- A chunker parses tagged words into a tree. -/
abbrev Chunker := List (String × String) → Except ToolkitError ChunkTree

/-- The operations of a language toolkit that the noun conversions use. -/
structure Toolkit where
  /-- Cuts a text into words. -/
  tokenize : String → Except ToolkitError (List String)
  /-- Gives each word a part-of-speech tag. -/
  tag : List String → Except ToolkitError (List (String × String))
  /-- Builds a chunker from a grammar. -/
  chunker : String → Except ToolkitError Chunker
  /-- Reads the label of a node, given the label it was built with. -/
  nodeLabel : String → Except ToolkitError String

/-- The characters the noun conversions read as separators. -/
def isScrubbed (c : Char) : Bool :=
  "[]|!$%&()-_=+\\/".toList.contains c

/-- Turns every run of separators into one space. -/
def scrub : List Char → List Char :=
  go false
where
  /-- `inRun` tells whether the previous character was a separator. -/
  go (inRun : Bool) : List Char → List Char
    | [] => []
    | c :: rest =>
      if isScrubbed c then
        if inRun then go true rest else ' ' :: go true rest
      else c :: go false rest

/-- The words tagged as nouns (`NNP` or `NN`), in order. -/
def nounsOf (tagged : List (String × String)) : List String :=
  (tagged.filter fun (_, t) => t == "NNP" || t == "NN").map Prod.fst

/-- The words of a text that are tagged as nouns, joined by `|`. -/
def nounWords (kit : Toolkit) (s : String) : Except ToolkitError String := do
  let tokens ← kit.tokenize (String.ofList (scrub s.toList))
  let tagged ← kit.tag tokens
  pure ("|".intercalate (nounsOf tagged))

/-- The grammar of a noun phrase: an optional determiner, any adjectives, then nouns. -/
def nounPhraseGrammar : String :=
  "NP: \x7b<DT>?<JJ.*>*<NN.*>+\x7d"

/-- The phrase of a node of the chunk tree, if its label marks a noun phrase: its words joined
by spaces. -/
def phraseOf (kit : Toolkit) :
    String × List (String × String) → Except ToolkitError (Option String)
  | (label, words) => do
    let l ← kit.nodeLabel label
    pure (if l == "NP" || l == "CHUNK" then some (" ".intercalate (words.map Prod.fst)) else none)

/-- The noun phrases of a text, joined by `|`. The chunker is built before the text is read. -/
def nounPhrases (kit : Toolkit) (s : String) : Except ToolkitError String := do
  let parse ← kit.chunker nounPhraseGrammar
  let tokens ← kit.tokenize (String.ofList (scrub s.toList))
  let tagged ← kit.tag tokens
  let tree ← parse tagged
  let phrases ← tree.subtrees.filterMapM (phraseOf kit)
  pure ("|".intercalate phrases)

/-- What every operation of a toolkit that is not installed raises. -/
def ToolkitError.unavailable : ToolkitError :=
  ⟨"ImportError", "nltk is not available"⟩

/-- The toolkit of an installation that lacks one. -/
def Toolkit.unavailable : Toolkit where
  tokenize _ := throw .unavailable
  tag _ := throw .unavailable
  chunker _ := throw .unavailable
  nodeLabel _ := throw .unavailable

end Tabula.Query
