import Tabula.Text.Utf8

/-!
# Decoding undoes encoding

Every text comes back from its UTF-8 bytes (`decode_encode`).  The bytes of one character are
a lead byte that continues nothing, followed by continuation bytes (`10xxxxxx`), which come
exactly when the lead byte is from `0xc0` on (`encodePoint_shape`).  So:

* the reader that cuts bytes into characters cuts a text's bytes at its characters' lead bytes
  (`glyphs_encodeChars`), by one step for each character (`glyphsFrom_glyph`);
* each piece is well-formed (`wellFormedGlyph_encodePoint`);
* each piece spells its character's code point again (`glyphBits_encodePoint`).

The byte-level facts are arithmetic on the four lengths a character's bytes can have, and
`omega` settles each once the bytes are numbers.
-/

namespace Tabula.Text

/-! ## The bytes of one character -/

/-- A character's code point lies below the surrogates, or above them and below `0x110000`. -/
theorem toNat_valid (c : Char) :
    c.toNat < 0xd800 ∨ (0xdfff < c.toNat ∧ c.toNat < 0x110000) :=
  c.valid

theorem toNat_lt_of_char (c : Char) : c.toNat < 0x110000 := by
  have := toNat_valid c
  omega

@[simp] theorem toNat_toUInt8 (n : Nat) : n.toUInt8.toNat = n % 256 := by
  rw [Nat.toUInt8_eq, UInt8.toNat_ofNat']

/-- The bytes of one character: a lead byte that continues nothing, then bytes that all
continue it, present exactly when the lead byte is from `0xc0` on. -/
structure GlyphShape (lead : UInt8) (rest : List UInt8) : Prop where
  lead_starts : isContinuation lead = false
  rest_continue : ∀ x ∈ rest, isContinuation x = true
  multi_iff : 0xc0 ≤ lead.toNat ↔ rest ≠ []

/-- The bytes of every code point below `0x110000` have the shape of one character. -/
theorem encodePoint_shape {n : Nat} (hn : n < 0x110000) :
    ∃ lead rest, encodePoint n = lead :: rest ∧ GlyphShape lead rest := by
  have hmod : n % 0x200000 = n := Nat.mod_eq_of_lt (by omega)
  unfold encodePoint
  simp only [hmod]
  by_cases h1 : n < 0x80
  · refine ⟨_, [], by rw [if_pos h1], ⟨?_, by simp, ?_⟩⟩ <;> simp [isContinuation] <;> omega
  rw [if_neg h1]
  by_cases h2 : n < 0x800
  · refine ⟨_, _, by rw [if_pos h2], ⟨?_, ?_, ?_⟩⟩ <;> simp [isContinuation] <;> omega
  rw [if_neg h2]
  by_cases h3 : n < 0x10000
  · refine ⟨_, _, by rw [if_pos h3], ⟨?_, ?_, ?_⟩⟩ <;> simp [isContinuation] <;> omega
  · refine ⟨_, _, by rw [if_neg h3], ⟨?_, ?_, ?_⟩⟩ <;> simp [isContinuation] <;> omega

/-! ## Cutting bytes into characters -/

/-- Bytes that start with a character: none at all, or a first byte that continues nothing. -/
def StartsGlyph (bs : List UInt8) : Prop := ∀ b ∈ bs.head?, isContinuation b = false

/-- A character's bytes open a new piece. -/
theorem glyphsFrom_nil_cons (b : UInt8) (bs : List UInt8) :
    glyphsFrom [] false (b :: bs) = glyphsFrom [b] (b.toNat ≥ 0xc0) bs := by
  simp [glyphsFrom]

/-- An open piece that takes continuation bytes takes all of them. -/
theorem glyphsFrom_continue (cur : List UInt8) {conts : List UInt8}
    (hconts : ∀ x ∈ conts, isContinuation x = true) (rest : List UInt8) :
    glyphsFrom cur true (conts ++ rest) = glyphsFrom (conts.reverse ++ cur) true rest := by
  induction conts generalizing cur with
  | nil => rfl
  | cons x conts ih =>
    have hx : isContinuation x = true := hconts x List.mem_cons_self
    rw [List.cons_append, glyphsFrom, if_pos (by simp [hx]),
      ih _ fun y hy => hconts y (List.mem_cons_of_mem _ hy)]
    simp

/-- A byte that continues nothing closes the open piece and opens the next. -/
theorem glyphsFrom_lead {cur : List UInt8} (hcur : cur ≠ []) (accepting : Bool) {b : UInt8}
    (hb : isContinuation b = false) (bs : List UInt8) :
    glyphsFrom cur accepting (b :: bs) = cur.reverse :: glyphsFrom [b] (b.toNat ≥ 0xc0) bs := by
  simp [glyphsFrom, hb, hcur]

/-- The bytes of one character, followed by bytes that start with a character, are cut after
the character. -/
theorem glyphsFrom_glyph {lead : UInt8} {conts : List UInt8} (hshape : GlyphShape lead conts)
    {rest : List UInt8} (hrest : StartsGlyph rest) :
    glyphsFrom [] false (lead :: conts ++ rest) = (lead :: conts) :: glyphsFrom [] false rest := by
  rw [List.cons_append, glyphsFrom_nil_cons]
  -- the lead byte opens the piece, and takes the continuation bytes when there are any
  have hpiece : glyphsFrom [lead] (lead.toNat ≥ 0xc0) (conts ++ rest) =
      glyphsFrom (lead :: conts).reverse (lead.toNat ≥ 0xc0) rest := by
    by_cases hmulti : 0xc0 ≤ lead.toNat
    · rw [decide_eq_true hmulti, glyphsFrom_continue _ hshape.rest_continue]
      simp
    · have hnil : conts = [] :=
        Classical.byContradiction fun hne => hmulti (hshape.multi_iff.2 hne)
      subst hnil
      rfl
  rw [hpiece]
  cases rest with
  | nil => simp [glyphsFrom]
  | cons b rest =>
    rw [glyphsFrom_lead (by simp) _ (hrest b rfl), List.reverse_reverse, glyphsFrom_nil_cons]

/-- The bytes of characters start with a character. -/
theorem startsGlyph_encodeChars : ∀ cs : List Char, StartsGlyph (encodeChars cs)
  | [] => by simp [StartsGlyph, encodeChars]
  | c :: _ => by
    obtain ⟨lead, rest, henc, hshape⟩ := encodePoint_shape (toNat_lt_of_char c)
    intro b hb
    simp only [encodeChars, List.flatMap_cons, henc, List.cons_append, List.head?_cons,
      Option.mem_def, Option.some.injEq] at hb
    exact hb ▸ hshape.lead_starts

/-- The bytes of characters are cut into the bytes of each character. -/
theorem glyphs_encodeChars (cs : List Char) :
    glyphs (encodeChars cs) = cs.map fun c => encodePoint c.toNat := by
  induction cs with
  | nil => rfl
  | cons c cs ih =>
    obtain ⟨lead, rest, henc, hshape⟩ := encodePoint_shape (toNat_lt_of_char c)
    have hcons : encodeChars (c :: cs) = lead :: rest ++ encodeChars cs := by
      rw [encodeChars, List.flatMap_cons, henc]
      rfl
    rw [glyphs, hcons, glyphsFrom_glyph hshape (startsGlyph_encodeChars cs), ← glyphs, ih,
      List.map_cons, henc]

/-! ## Each character's bytes read back -/

/-- The bytes of a character are well-formed UTF-8. -/
theorem wellFormedGlyph_encodePoint (c : Char) : wellFormedGlyph (encodePoint c.toNat) = true := by
  have hc := toNat_valid c
  have hmod : c.toNat % 0x200000 = c.toNat := Nat.mod_eq_of_lt (by omega)
  unfold encodePoint
  simp only [hmod]
  by_cases h1 : c.toNat < 0x80
  · simp [h1, wellFormedGlyph]
    omega
  by_cases h2 : c.toNat < 0x800
  · simp [h1, h2, wellFormedGlyph]
    omega
  by_cases h3 : c.toNat < 0x10000
  · simp [h1, h2, h3, wellFormedGlyph]
    omega
  · simp [h1, h2, h3, wellFormedGlyph]
    omega

/-- The bytes of a character spell its code point. -/
theorem glyphBits_encodePoint (c : Char) : glyphBits (encodePoint c.toNat) = c.toNat := by
  have hc := toNat_valid c
  have hmod : c.toNat % 0x200000 = c.toNat := Nat.mod_eq_of_lt (by omega)
  unfold encodePoint
  simp only [hmod]
  -- in each case the lead byte is a number whose payload is read by the first test it passes
  by_cases h1 : c.toNat < 0x80
  · have hlead : c.toNat % 256 = c.toNat := by omega
    simp [h1, glyphBits, hlead]
    omega
  by_cases h2 : c.toNat < 0x800
  · have hlead : (192 + c.toNat / 64) % 256 = 192 + c.toNat / 64 := by omega
    have hmulti : ¬192 + c.toNat / 64 < 192 := by omega
    have hpay : 192 + c.toNat / 64 < 224 := by omega
    simp [h1, h2, glyphBits, leadPayload, hlead, hmulti, hpay]
    omega
  by_cases h3 : c.toNat < 0x10000
  · have hlead : (224 + c.toNat / 4096) % 256 = 224 + c.toNat / 4096 := by omega
    have hmulti : ¬224 + c.toNat / 4096 < 192 := by omega
    have htwo : ¬224 + c.toNat / 4096 < 224 := by omega
    have hpay : 224 + c.toNat / 4096 < 240 := by omega
    simp [h1, h2, h3, glyphBits, leadPayload, hlead, hmulti, htwo, hpay]
    omega
  · have hlead : (240 + c.toNat / 262144) % 256 = 240 + c.toNat / 262144 := by omega
    have hmulti : ¬240 + c.toNat / 262144 < 192 := by omega
    have htwo : ¬240 + c.toNat / 262144 < 224 := by omega
    have hthree : ¬240 + c.toNat / 262144 < 240 := by omega
    have hpay : 240 + c.toNat / 262144 < 248 := by omega
    simp [h1, h2, h3, glyphBits, leadPayload, hlead, hmulti, htwo, hthree, hpay]
    omega

/-- A character's code point names the character. -/
theorem pointChar_toNat (c : Char) : pointChar c.toNat = c := by
  have hvalid : c.toNat.isValidChar := c.valid
  rw [pointChar, if_pos hvalid, Char.ofNat_toNat]

/-! ## Texts -/

/-- Decoding the UTF-8 bytes of a text gives the text back. -/
theorem decode_encode (s : String) : decode? (encode s) = some s := by
  have hwell : (glyphs (encode s)).all wellFormedGlyph = true := by
    rw [encode, glyphs_encodeChars, List.all_map]
    simp [Function.comp_def, wellFormedGlyph_encodePoint]
  have hchars : (glyphs (encode s)).map (fun g => pointChar (glyphBits g)) = s.toList := by
    rw [encode, glyphs_encodeChars, List.map_map]
    calc s.toList.map ((fun g => pointChar (glyphBits g)) ∘ fun c => encodePoint c.toNat)
        = s.toList.map id := List.map_congr_left fun c _ => by
          simp [glyphBits_encodePoint, pointChar_toNat]
      _ = s.toList := List.map_id _
  rw [decode?, if_pos hwell, hchars, String.ofList_toList]

end Tabula.Text
