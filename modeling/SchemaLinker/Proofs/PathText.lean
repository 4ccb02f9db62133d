import SchemaLinker.DataType.Parser

/-!
# `SchemaLinker.Proofs.PathText`: the texts that name a path

A path is read by cutting the text at every `::` and `.` and trimming what
lies between. `PathText` says the same as a grammar: pieces with separators
between them, where a piece is a segment among blanks, or blanks alone, which
count for nothing. No piece holds a character of a separator, so reading cuts
a text where the grammar has its separators (`Path.pieces_append`).

* `readPath_eq_ok_iff`: a path is read from a text exactly when the text
  spells its segments and there is one.
* `PathText.not_mem_of_bracket`: no such text holds an angle bracket.
-/

set_option autoImplicit false

namespace SchemaLinker

namespace Text

/-! ### Blanks around a text -/

/-- Blank characters, or none. -/
def Blanks (cs : List Char) : Prop := ∀ c ∈ cs, isBlank c = true

/-- No characters are blanks. -/
theorem blanks_nil : Blanks [] := fun _ h => absurd h List.not_mem_nil

/-- Blanks are blanks from behind. -/
theorem Blanks.reverse {cs : List Char} (h : Blanks cs) : Blanks cs.reverse :=
  fun c hc => h c (List.mem_reverse.1 hc)

/-- Blanks after blanks are blanks. -/
theorem Blanks.append {cs ds : List Char} (h : Blanks cs) (h' : Blanks ds) : Blanks (cs ++ ds) :=
  fun c hc => (List.mem_append.1 hc).elim (h c) (h' c)

/-- No other character is among them. -/
theorem Blanks.not_mem {cs : List Char} (h : Blanks cs) {c : Char} (hc : isBlank c = false) :
    c ∉ cs := fun hmem => by
  rw [h c hmem] at hc
  cases hc

/-- A text is blanks and its start without them. -/
theorem exists_blanks_trimStart (cs : List Char) : ∃ b, Blanks b ∧ cs = b ++ trimStart cs := by
  refine ⟨cs.takeWhile isBlank, fun c hc => ?_, List.takeWhile_append_dropWhile.symm⟩
  exact List.all_eq_true.1 List.all_takeWhile c hc

/-- Blanks at the start do not count. -/
theorem trimStart_append {b : List Char} (hb : Blanks b) (cs : List Char) :
    trimStart (b ++ cs) = trimStart cs :=
  List.dropWhile_append_of_pos hb

/-- A text is what trimming leaves of it, among blanks. -/
theorem exists_blanks_trim (cs : List Char) :
    ∃ b b', Blanks b ∧ Blanks b' ∧ cs = b ++ trim cs ++ b' := by
  obtain ⟨b, hb, hstart⟩ := exists_blanks_trimStart cs
  obtain ⟨b', hb', hend⟩ := exists_blanks_trimStart (trimStart cs).reverse
  refine ⟨b, b'.reverse, hb, hb'.reverse, ?_⟩
  have hback : trimStart cs = trim cs ++ b'.reverse := by
    rw [trim, ← List.reverse_append, ← hend, List.reverse_reverse]
  rw [List.append_assoc, ← hback]
  exact hstart

/-- Nothing is left of blanks. -/
theorem trim_of_blanks {b : List Char} (hb : Blanks b) : trim b = [] := by
  have hstart : trimStart b = [] := by
    simpa [trimStart] using trimStart_append hb []
  rw [trim, hstart]
  rfl

/-- Nothing is dropped from a text without blanks. -/
theorem trim_of_not_blank {cs : List Char} (hcs : ∀ c ∈ cs, isBlank c = false) : trim cs = cs :=
  trim_eq_self (fun c hc => hcs c (List.mem_of_mem_head? hc))
    fun c hc => hcs c (List.mem_of_mem_getLast? hc)

/-- A text without blanks is what is left of it among blanks. -/
theorem trim_append {b cs b' : List Char} (hb : Blanks b) (hcs : ∀ c ∈ cs, isBlank c = false)
    (hb' : Blanks b') : trim (b ++ cs ++ b') = cs := by
  cases cs with
  | nil => simpa using trim_of_blanks (hb.append hb')
  | cons c rest =>
    have hfirst : ∀ (l : List Char) d, (c :: l).head? = some d → isBlank d = false := by
      rintro l d ⟨⟩
      exact hcs c List.mem_cons_self
    have hstart : trimStart (b ++ (c :: rest) ++ b') = c :: rest ++ b' := by
      rw [List.append_assoc, trimStart_append hb]
      exact trimStart_eq_self (hfirst _)
    have hself := trim_of_not_blank hcs
    rw [trim, trimStart_eq_self (hfirst _)] at hself
    rw [trim, hstart, List.reverse_append, trimStart_append hb'.reverse, hself]

end Text

open Text

/-! ### Segments -/

/-- The characters of a segment: at least one, all of them alphanumeric or
`_`, and the first no ASCII digit. -/
structure IsSegment (cs : List Char) : Prop where
  ne_nil : cs ≠ []
  letters : ∀ c ∈ cs, isAlphanumeric c = true ∨ c = '_'
  head_not_digit : ∀ c, cs.head? = some c → c.isDigit = false

/-- The parser's test is this one, but for the empty text, which passes it. -/
theorem isSegment_iff {cs : List Char} :
    IsSegment cs ↔ cs ≠ [] ∧ DataType.isIdentifier cs = true := by
  have hletters : (cs.all fun c => isAlphanumeric c || c == '_') = true ↔
      ∀ c ∈ cs, isAlphanumeric c = true ∨ c = '_' := by
    simp only [List.all_eq_true, Bool.or_eq_true, beq_iff_eq]
  have hdigit : (!(cs.head?.any Char.isDigit)) = true ↔
      ∀ c, cs.head? = some c → c.isDigit = false := by
    cases cs <;> simp
  rw [DataType.isIdentifier, Bool.and_eq_true, hletters, hdigit]
  exact ⟨fun h => ⟨h.ne_nil, h.letters, h.head_not_digit⟩, fun h => ⟨h.1, h.2.1, h.2.2⟩⟩

/-- A segment holds no blank. -/
theorem IsSegment.not_blank {cs : List Char} (h : IsSegment cs) : ∀ c ∈ cs, isBlank c = false := by
  intro c hc
  rcases h.letters c hc with halnum | rfl
  · cases hblank : isBlank c with
    | false => rfl
    | true => rw [isAlphanumeric_eq_false_of_isBlank hblank] at halnum; cases halnum
  · decide

/-- Where there is a segment, the simple name is the last. -/
theorem Path.getLast?_segments {p : Path} (h : p.segments ≠ []) :
    p.segments.getLast? = some p.simpleName := by
  rw [Path.simpleName]
  cases hlast : p.segments.getLast? with
  | none => exact absurd (List.getLast?_eq_none_iff.1 hlast) h
  | some s => rfl

/-- The texts between two separators, with the segments they hold. -/
inductive Piece : List Char → List String → Prop
  | blank {b : List Char} : Blanks b → Piece b []
  | segment {b cs b' : List Char} : Blanks b → IsSegment cs → Blanks b' →
    Piece (b ++ cs ++ b') [String.ofList cs]

/-- The texts of a path, with its segments. -/
inductive PathText : List Char → List String → Prop
  | last {cs : List Char} {segments : List String} : Piece cs segments → PathText cs segments
  | colons {cs rest : List Char} {segments more : List String} : Piece cs segments →
    PathText rest more → PathText (cs ++ ':' :: ':' :: rest) (segments ++ more)
  | dot {cs rest : List Char} {segments more : List String} : Piece cs segments →
    PathText rest more → PathText (cs ++ '.' :: rest) (segments ++ more)

/-! ### The characters of path texts -/

/-- A piece holds blanks and the characters of a segment. -/
theorem Piece.mem_cases {cs : List Char} {segments : List String} (h : Piece cs segments) {c : Char}
    (hc : c ∈ cs) : isBlank c = true ∨ isAlphanumeric c = true ∨ c = '_' := by
  cases h with
  | blank hb => exact Or.inl (hb c hc)
  | segment hb hcs hb' =>
    rcases List.mem_append.1 hc with hfront | hback
    · rcases List.mem_append.1 hfront with hblank | hseg
      · exact Or.inl (hb c hblank)
      · exact Or.inr (hcs.letters c hseg)
    · exact Or.inl (hb' c hback)

/-- A piece holds no character of a separator, and no bracket. -/
theorem Piece.not_mem {cs : List Char} {segments : List String} (h : Piece cs segments) {c : Char}
    (hc : c ∈ [':', '.', '<', '>']) : c ∉ cs := by
  have hall : ([':', '.', '<', '>'].all fun d =>
      !(isBlank d || (isAlphanumeric d || d == '_'))) = true := by decide +kernel
  have hnone := List.all_eq_true.1 hall c hc
  intro hmem
  have hletter := h.mem_cases hmem
  rw [← beq_iff_eq (a := c), ← Bool.or_eq_true, ← Bool.or_eq_true] at hletter
  rw [hletter] at hnone
  cases hnone

/-- So brackets in a text are around its paths, not in them. -/
theorem PathText.not_mem_of_bracket {cs : List Char} {segments : List String}
    (h : PathText cs segments) {c : Char} (hc : c ∈ ['<', '>']) : c ∉ cs := by
  have hpiece : c ∈ [':', '.', '<', '>'] := by simp_all
  have hcolon : c ≠ ':' ∧ c ≠ '.' := by
    constructor <;> rintro rfl <;> revert hc <;> decide
  induction h with
  | last h => exact h.not_mem hpiece
  | colons h _ ih => simp [h.not_mem hpiece, ih, hcolon.1]
  | dot h _ ih => simp [h.not_mem hpiece, ih, hcolon.2]

/-! ### Cutting into pieces -/

namespace Path

/-- The segments that pieces of a text hold. -/
def ofPieces (ps : List (List Char)) : List String :=
  ((ps.map trim).filter fun p => !p.isEmpty).map String.ofList

/-- Reading a path is cutting the text and looking at its pieces. -/
theorem segments_ofChars (cs : List Char) : (ofChars cs).segments = ofPieces (pieces [] cs) := rfl

/-- The pieces count one by one. -/
theorem ofPieces_cons (p : List Char) (ps : List (List Char)) :
    ofPieces (p :: ps) = ofPieces [p] ++ ofPieces ps := by
  simp only [ofPieces, List.map_cons, List.map_nil]
  rw [← List.map_append, ← List.filter_append]
  rfl

/-- A piece counts as what is left of it without blanks, if anything is. -/
theorem ofPieces_singleton (p : List Char) :
    ofPieces [p] = if trim p = [] then [] else [String.ofList (trim p)] := by
  by_cases hp : trim p = [] <;> simp [ofPieces, hp]

/-- A text without separators goes to the current piece as it is. -/
theorem pieces_append {cs : List Char} (h : ':' ∉ cs ∧ '.' ∉ cs) (piece rest : List Char) :
    pieces piece (cs ++ rest) = pieces (cs.reverse ++ piece) rest := by
  induction cs generalizing piece with
  | nil => rfl
  | cons c cs ih =>
    simp only [List.mem_cons, not_or] at h
    have hnone : ∀ ds, c = ':' → cs ++ rest = ':' :: ds → False := fun _ hc _ => h.1.1 hc.symm
    rw [List.cons_append, pieces.eq_4 piece c _ hnone fun hc => h.2.1 hc.symm,
      ih ⟨h.1.2, h.2.2⟩, List.reverse_cons, List.append_assoc]
    rfl

end Path

/-- A piece of the grammar has the segments that are read from it. -/
theorem Piece.ofPieces_eq {p : List Char} {segments : List String} (h : Piece p segments) :
    Path.ofPieces [p] = segments := by
  rw [Path.ofPieces_singleton]
  cases h with
  | blank hb => rw [if_pos (trim_of_blanks hb)]
  | segment hb hcs hb' => rw [trim_append hb hcs.not_blank hb', if_neg hcs.ne_nil]

/-- A piece that holds identifiers alone is one of the grammar. -/
theorem piece_of_isIdentifier {p : List Char}
    (h : ∀ s ∈ Path.ofPieces [p], DataType.isIdentifier s.toList = true) :
    Piece p (Path.ofPieces [p]) := by
  obtain ⟨b, b', hb, hb', hp⟩ := exists_blanks_trim p
  rw [Path.ofPieces_singleton] at h ⊢
  split at h
  · rename_i hnone
    rw [if_pos hnone, hp, hnone, List.append_nil]
    exact Piece.blank (hb.append hb')
  · rename_i hsome
    rw [if_neg hsome]
    have hseg : IsSegment (trim p) := isSegment_iff.2 ⟨hsome, by simpa using h⟩
    have hpiece := Piece.segment hb hseg hb'
    rwa [← hp] at hpiece

/-- The segments of a path text are the ones that are read. -/
theorem PathText.ofPieces_eq {cs : List Char} {segments : List String}
    (h : PathText cs segments) : Path.ofPieces (Path.pieces [] cs) = segments := by
  -- A piece is taken up as a whole, so what is read next is a separator or the end.
  have hcut : ∀ {ds : List Char} {more : List String}, Piece ds more → ∀ rest,
      Path.pieces [] (ds ++ rest) = Path.pieces ds.reverse rest := by
    intro ds more hds rest
    simpa using Path.pieces_append ⟨hds.not_mem (by simp), hds.not_mem (by simp)⟩ [] rest
  induction h with
  | @last cs segments hp =>
    have hself := hcut hp []
    rw [List.append_nil, Path.pieces, List.reverse_reverse] at hself
    rw [hself, hp.ofPieces_eq]
  | colons hp _ ih =>
    rw [hcut hp, Path.pieces, List.reverse_reverse, Path.ofPieces_cons, hp.ofPieces_eq, ih]
  | dot hp _ ih =>
    rw [hcut hp, Path.pieces, List.reverse_reverse, Path.ofPieces_cons, hp.ofPieces_eq, ih]

/-- A text with a segment is not empty. -/
theorem PathText.ne_nil {cs : List Char} {segments : List String} (h : PathText cs segments)
    (hne : segments ≠ []) : cs ≠ [] := by
  rintro rfl
  exact hne h.ofPieces_eq.symm

/-- A text whose pieces hold identifiers alone is a path text. The induction
follows the cutting, so the current piece comes first. -/
theorem pathText_of_isIdentifier (piece cs : List Char)
    (h : ∀ s ∈ Path.ofPieces (Path.pieces piece cs), DataType.isIdentifier s.toList = true) :
    PathText (piece.reverse ++ cs) (Path.ofPieces (Path.pieces piece cs)) := by
  fun_induction Path.pieces piece cs with
  | case1 piece =>
    rw [List.append_nil]
    exact PathText.last (piece_of_isIdentifier h)
  | case2 piece rest ih =>
    rw [Path.ofPieces_cons, List.forall_mem_append] at h
    rw [Path.ofPieces_cons]
    exact PathText.colons (piece_of_isIdentifier h.1) (ih h.2)
  | case3 piece rest ih =>
    rw [Path.ofPieces_cons, List.forall_mem_append] at h
    rw [Path.ofPieces_cons]
    exact PathText.dot (piece_of_isIdentifier h.1) (ih h.2)
  | case4 piece c rest _ _ ih => simpa using ih h

/-- All that a path text spells are segments. -/
theorem PathText.isSegment {cs : List Char} {segments : List String} (h : PathText cs segments) :
    ∀ s ∈ segments, IsSegment s.toList := by
  have hpiece : ∀ {ds : List Char} {more : List String}, Piece ds more →
      ∀ s ∈ more, IsSegment s.toList := by
    intro ds more hds s hs
    cases hds with
    | blank => cases hs
    | segment _ hseg _ => rwa [List.mem_singleton.1 hs, String.toList_ofList]
  induction h with
  | last hp => exact hpiece hp
  | colons hp _ ih => exact List.forall_mem_append.2 ⟨hpiece hp, ih⟩
  | dot hp _ ih => exact List.forall_mem_append.2 ⟨hpiece hp, ih⟩

/-- A path is read when it has a segment and all of them are identifiers. -/
theorem readPath_eq_ok_iff_identifiers {cs : List Char} {p : Path} :
    DataType.readPath cs = .ok p ↔ Path.ofChars cs = p ∧ p.segments ≠ [] ∧
      ∀ s ∈ p.segments, DataType.isIdentifier s.toList = true := by
  simp only [DataType.readPath, Path.isEmpty, List.isEmpty_iff]
  by_cases hne : (Path.ofChars cs).segments = []
  · rw [if_pos hne]
    refine ⟨(fun h => nomatch h), ?_⟩
    rintro ⟨rfl, hsome, -⟩
    exact absurd hne hsome
  · rw [if_neg hne]
    cases hfind : (Path.ofChars cs).segments.find? fun s => !DataType.isIdentifier s.toList with
    | some bad =>
      -- The text is refused for a segment that is no identifier.
      refine ⟨(fun h => nomatch h), ?_⟩
      rintro ⟨rfl, -, hids⟩
      have hbad := List.find?_some hfind
      rw [hids bad (List.mem_of_find?_eq_some hfind)] at hbad
      cases hbad
    | none =>
      have hids : ∀ s ∈ (Path.ofChars cs).segments, DataType.isIdentifier s.toList = true := by
        simpa using hfind
      show Except.ok (Path.ofChars cs) = Except.ok p ↔ _
      rw [Except.ok.injEq]
      refine ⟨?_, fun h => h.1⟩
      rintro rfl
      exact ⟨rfl, hne, hids⟩

/-- A path is read from the texts that spell its segments, of which there
has to be one. -/
theorem readPath_eq_ok_iff {cs : List Char} {p : Path} :
    DataType.readPath cs = .ok p ↔ PathText cs p.segments ∧ p.segments ≠ [] := by
  rw [readPath_eq_ok_iff_identifiers]
  constructor
  · rintro ⟨rfl, hne, hids⟩
    rw [Path.segments_ofChars] at hids hne ⊢
    exact ⟨pathText_of_isIdentifier [] cs hids, hne⟩
  · rintro ⟨htext, hne⟩
    refine ⟨?_, hne, fun s hs => (isSegment_iff.1 (htext.isSegment s hs)).2⟩
    exact congrArg Path.mk htext.ofPieces_eq

end SchemaLinker
