import Tabula.Tool.Query

/-!
# The noun conversions

The `noun` and `nounphrase` conversions hand a cell's text to a language toolkit, which the
query command is given as a parameter. What they do follows from what the toolkit does, and
`Toolkit.Lawful` names what a working toolkit is taken to do:

* `tokenize_ok`: every text is cut into words;
* `tag_words`: tagging succeeds and keeps the words, in order, each with a tag;
* `chunker_ok`: the grammar of noun phrases builds a chunker;
* `parse_leaves`: a chunker parses tagged words into a tree whose leaves they are;
* `nodeLabel_self`: a node's label reads as the label it was built with.

Each node of a chunk tree holds a run of consecutive leaves of the tree
(`ChunkTree.infix_of_mem_subtrees`, by induction on the tree and its rows of children). So
with a working toolkit the noun conversion succeeds and keeps some of the words of the text,
in order (`convertText_nouns`), and each noun phrase is a run of consecutive words of the
text (`convertText_nounPhrases`). A toolkit that is not installed fails both conversions with
its error (`convertText_unavailable`); `Toolkit.oneChunk` shows that the laws can all hold.
-/

namespace Tabula.Query

/-! ## Chunk trees -/

mutual
/-- The nodes of a tree each hold a run of the tree's leaves. -/
theorem ChunkTree.infix_of_mem_subtrees :
    ∀ (t : ChunkTree), ∀ p ∈ t.subtrees, p.2 <:+: t.leaves
  | .word _ _, p, hp => by simp [ChunkTree.subtrees] at hp
  | .node l cs, p, hp => by
    simp only [ChunkTree.subtrees, List.mem_cons] at hp
    rcases hp with rfl | hp
    · exact List.infix_refl _
    · exact ChunkTree.infix_of_mem_subtreesOf cs p hp

/-- The nodes of a row of trees each hold a run of the row's leaves. -/
theorem ChunkTree.infix_of_mem_subtreesOf :
    ∀ (ts : List ChunkTree), ∀ p ∈ ChunkTree.subtreesOf ts, p.2 <:+: ChunkTree.leavesOf ts
  | [], p, hp => by simp [ChunkTree.subtreesOf] at hp
  | t :: ts, p, hp => by
    simp only [ChunkTree.subtreesOf, List.mem_append] at hp
    rw [ChunkTree.leavesOf]
    -- a node of the first tree lies in its leaves, a node of the others in theirs
    rcases hp with hp | hp
    · exact (ChunkTree.infix_of_mem_subtrees t p hp).trans (List.prefix_append _ _).isInfix
    · exact (ChunkTree.infix_of_mem_subtreesOf ts p hp).trans (List.suffix_append _ _).isInfix
end

/-- Tagged words, each made a leaf, are the leaves of the row. -/
theorem ChunkTree.leavesOf_words :
    ∀ (tagged : List (String × String)),
      ChunkTree.leavesOf (tagged.map fun p => .word p.1 p.2) = tagged
  | [] => by rw [List.map_nil, ChunkTree.leavesOf]
  | p :: rest => by
    rw [List.map_cons, ChunkTree.leavesOf, ChunkTree.leavesOf_words rest, ChunkTree.leaves]
    rfl

/-! ## What a working toolkit does -/

/-- What a working toolkit is taken to do. -/
structure Toolkit.Lawful (kit : Toolkit) : Prop where
  /-- Every text is cut into words. -/
  tokenize_ok : ∀ s, ∃ words, kit.tokenize s = .ok words
  /-- Tagging succeeds and keeps the words, in order. -/
  tag_words : ∀ words, ∃ tagged, kit.tag words = .ok tagged ∧ tagged.map Prod.fst = words
  /-- The grammar of noun phrases builds a chunker. -/
  chunker_ok : ∃ parse, kit.chunker nounPhraseGrammar = .ok parse
  /-- A chunker parses tagged words into a tree whose leaves they are. -/
  parse_leaves : ∀ g parse, kit.chunker g = .ok parse →
    ∀ tagged, ∃ tree, parse tagged = .ok tree ∧ tree.leaves = tagged
  /-- A node's label reads as the label it was built with. -/
  nodeLabel_self : ∀ l, kit.nodeLabel l = .ok l

/-- A toolkit that cuts a text at its blanks, tags every word as a noun and chunks all the
words into one noun phrase. -/
def Toolkit.oneChunk : Toolkit where
  tokenize s := .ok ((Text.words s.toList).map String.ofList)
  tag words := .ok (words.map fun w => (w, "NN"))
  chunker _ := .ok fun tagged =>
    .ok (.node "S" [.node "NP" (tagged.map fun p => .word p.1 p.2)])
  nodeLabel l := .ok l

theorem Toolkit.oneChunk_lawful : Toolkit.oneChunk.Lawful where
  tokenize_ok _ := ⟨_, rfl⟩
  tag_words words := ⟨_, rfl, by simp [Function.comp_def]⟩
  chunker_ok := ⟨_, rfl⟩
  parse_leaves _ _ h tagged := by
    cases h
    refine ⟨_, rfl, ?_⟩
    simp only [ChunkTree.leaves, ChunkTree.leavesOf, ChunkTree.leavesOf_words, List.append_nil]
  nodeLabel_self _ := rfl

/-- A run of `Except` steps that all succeed gives what they give. -/
theorem filterMapM_eq_ok {α β ε : Type} {f : α → Except ε (Option β)} {g : α → Option β} :
    ∀ {xs : List α}, (∀ x ∈ xs, f x = .ok (g x)) → xs.filterMapM f = .ok (xs.filterMap g)
  | [], _ => rfl
  | x :: xs, h => by
    have ih := filterMapM_eq_ok fun y hy => h y (List.mem_cons_of_mem x hy)
    rw [List.filterMapM_cons, h x List.mem_cons_self, List.filterMap_cons]
    cases g x with
    | none => exact ih
    | some b => simp only [bind, Except.bind, ih, pure, Except.pure]

variable {kit : Toolkit}

/-- With a working toolkit, the phrase of a node is read from its label as it was built. -/
theorem phraseOf_lawful (hkit : kit.Lawful) (p : String × List (String × String)) :
    phraseOf kit p =
      .ok (if p.1 == "NP" || p.1 == "CHUNK" then some (" ".intercalate (p.2.map Prod.fst))
        else none) := by
  obtain ⟨label, words⟩ := p
  simp only [phraseOf, hkit.nodeLabel_self]
  rfl

/-- With a working toolkit, the phrase loop over the nodes of a tree gives the words of each
noun phrase node, joined by spaces. -/
theorem filterMapM_phraseOf (hkit : kit.Lawful) (nodes : List (String × List (String × String))) :
    nodes.filterMapM (phraseOf kit) =
      .ok ((nodes.filterMap fun p =>
        if p.1 == "NP" || p.1 == "CHUNK" then some (p.2.map Prod.fst) else none).map
          (" ".intercalate ·)) := by
  rw [filterMapM_eq_ok fun p _ => phraseOf_lawful hkit p, List.map_filterMap]
  congr 2
  funext p
  split <;> rfl

end Tabula.Query

namespace Tabula.Tool

open Tabula.Query

variable {kit : Toolkit}

/-- With a working toolkit, the noun conversion succeeds: it keeps some of the words the text
is cut into, in order, and joins them with `|`. -/
theorem convertText_nouns (hkit : kit.Lawful) (s : String) :
    ∃ words nouns, kit.tokenize (String.ofList (scrub s.toList)) = .ok words ∧
      nouns.Sublist words ∧ convertText kit .nouns s = .ok (.text ("|".intercalate nouns)) := by
  obtain ⟨words, hwords⟩ := hkit.tokenize_ok (String.ofList (scrub s.toList))
  obtain ⟨tagged, htag, hfst⟩ := hkit.tag_words words
  refine ⟨words, nounsOf tagged, hwords, ?_, ?_⟩
  · -- the nouns are the words of the tagged pairs that the filter keeps
    rw [← hfst]
    exact (List.filter_sublist).map _
  · simp only [convertText, nounWords, hwords, htag, bind, Except.bind, pure, Except.pure]
    rfl

/-- With a working toolkit, the noun phrase conversion succeeds: each phrase is a run of
consecutive words the text is cut into, joined by spaces, and the phrases are joined with
`|`. -/
theorem convertText_nounPhrases (hkit : kit.Lawful) (s : String) :
    ∃ (words : List String) (phrases : List (List String)),
      kit.tokenize (String.ofList (scrub s.toList)) = .ok words ∧ (∀ p ∈ phrases, p <:+: words) ∧
      convertText kit .nounPhrases s =
        .ok (.text ("|".intercalate (phrases.map (" ".intercalate ·)))) := by
  obtain ⟨parse, hparse⟩ := hkit.chunker_ok
  obtain ⟨words, hwords⟩ := hkit.tokenize_ok (String.ofList (scrub s.toList))
  obtain ⟨tagged, htag, hfst⟩ := hkit.tag_words words
  obtain ⟨tree, htree, hleaves⟩ := hkit.parse_leaves _ _ hparse tagged
  -- the words under each noun phrase node of the tree
  let phrases := tree.subtrees.filterMap fun p =>
    if p.1 == "NP" || p.1 == "CHUNK" then some (p.2.map Prod.fst) else none
  have hphrases := filterMapM_phraseOf hkit tree.subtrees
  refine ⟨words, phrases, hwords, fun ws hws => ?_, ?_⟩
  · -- a phrase is the words of a node, which hold a run of the leaves, the tagged words
    obtain ⟨p, hp, hsome⟩ := List.mem_filterMap.1 hws
    split at hsome
    · cases hsome
      rw [← hfst, ← hleaves]
      exact (ChunkTree.infix_of_mem_subtrees tree p hp).map _
    · cases hsome
  · simp only [convertText, nounPhrases, hparse, hwords, htag, htree, hphrases, bind,
      Except.bind, pure, Except.pure]
    rfl

/-- Without a toolkit, both noun conversions fail with the toolkit's error. -/
theorem convertText_unavailable (s : String) :
    convertText .unavailable .nouns s = .error (.toolkit .unavailable) ∧
      convertText .unavailable .nounPhrases s = .error (.toolkit .unavailable) :=
  ⟨rfl, rfl⟩

end Tabula.Tool
