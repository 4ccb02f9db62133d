import SchemaLinker.DataType.Printer
import SchemaLinker.Proofs.Grammar

/-!
# `SchemaLinker.Proofs.Printing`: types written and read again

A well formed type is one that can be written: its innermost path has a
segment, and all of its segments are segments in text. All types that are read
are such (`TypeText.wellFormed`), and the text of such a type is one of the
grammar's (`typeText_toString`).

The text need not express the type it was written from. A path is read from
`uuid.Uuid`, since that is no scalar's word, and written as `uuid::Uuid`,
which is one. `reread` is what comes back. `printed_reread` says that nothing
else is lost: a type that is read and written is read again unless its
innermost path is written as a scalar's word. `ofString?_toString_eq_ok_iff`
says the same of all types: those come back from their text whose innermost
path is well formed and is no such word.
-/

set_option autoImplicit false

namespace SchemaLinker

open Text

/-! ### Paths as text -/

/-- A segment alone is a piece. -/
theorem IsSegment.piece {s : String} (h : IsSegment s.toList) : Piece s.toList [s] := by
  have hpiece := Piece.segment blanks_nil h blanks_nil
  rwa [List.nil_append, List.append_nil, String.ofList_toList] at hpiece

/-- A path of segments is written as a text of it, without blanks. -/
theorem Path.pathText_toString {p : Path} (hne : p.segments ≠ [])
    (h : ∀ s ∈ p.segments, IsSegment s.toList) :
    PathText (toString p).toList p.segments ∧ ∀ c ∈ (toString p).toList, isBlank c = false := by
  obtain ⟨segments⟩ := p
  show PathText ("::".intercalate segments).toList segments ∧
    ∀ c ∈ ("::".intercalate segments).toList, isBlank c = false
  induction segments with
  | nil => exact absurd rfl hne
  | cons s rest ih =>
    obtain ⟨hs, hrest⟩ := List.forall_mem_cons.1 h
    cases rest with
    | nil =>
      rw [String.intercalate_singleton]
      exact ⟨PathText.last hs.piece, hs.not_blank⟩
    | cons s' rest =>
      obtain ⟨htext, hblank⟩ := ih (List.cons_ne_nil _ _) hrest
      have hcons : ("::".intercalate (s :: s' :: rest)).toList =
          s.toList ++ ':' :: ':' :: ("::".intercalate (s' :: rest)).toList := by
        simp [String.intercalate_cons_cons]
      -- Between two segments stand colons, which are no blanks.
      rw [hcons]
      refine ⟨PathText.colons hs.piece htext, fun c hc => ?_⟩
      rcases List.mem_append.1 hc with hseg | hbehind
      · exact hs.not_blank c hseg
      · rcases List.mem_cons.1 hbehind with rfl | hbehind
        · decide
        · rcases List.mem_cons.1 hbehind with rfl | hbehind
          · decide
          · exact hblank c hbehind

/-- A path that can be told from its text: it has a segment, all its segments
are segments in text, and it is not written as a scalar's word. -/
structure Path.Readable (p : Path) : Prop where
  ne_nil : p.segments ≠ []
  segments : ∀ s ∈ p.segments, IsSegment s.toList
  no_keyword : Scalar.ofKeyword? (toString p) = none

namespace DataType

/-! ### Types as text -/

/-- A type that can be written: its innermost path spells one. -/
def WellFormed : DataType → Prop
  | .scalar _ => True
  | .named p => p.segments ≠ [] ∧ ∀ s ∈ p.segments, IsSegment s.toList
  | .list item => WellFormed item
  | .set item => WellFormed item

/-- The type inside all collections. -/
def innermost : DataType → DataType
  | .list item => item.innermost
  | .set item => item.innermost
  | t => t

/-- The type that the text of a type expresses: a path that is written as a
scalar's word comes back as that scalar. -/
def reread : DataType → DataType
  | .scalar s => .scalar s
  | .named p => ((Scalar.ofKeyword? (toString p)).map DataType.scalar).getD (.named p)
  | .list item => .list item.reread
  | .set item => .set item.reread

/-- A type reads as itself unless the path inside spells a keyword. -/
theorem reread_eq_self_iff {t : DataType} :
    t.reread = t ↔ ∀ p, t.innermost = .named p → Scalar.ofKeyword? (toString p) = none := by
  induction t with
  | scalar s => simp [reread, innermost]
  | named p =>
    simp only [reread, innermost, DataType.named.injEq, forall_eq']
    cases Scalar.ofKeyword? (toString p) <;> simp
  | list item ih => simpa only [reread, innermost, DataType.list.injEq] using ih
  | set item ih => simpa only [reread, innermost, DataType.set.injEq] using ih

/-- Types that are read are well formed. -/
theorem TypeText.wellFormed {cs : List Char} {t : DataType} (h : TypeText cs t) : t.WellFormed := by
  induction h with
  | base h =>
    cases h with
    | scalar => trivial
    | path htext hne _ => exact ⟨hne, htext.isSegment⟩
  | wrapped _ _ _ _ hwraps ih =>
    cases hwraps with
    | bare => exact ih
    | list => exact ih
    | set => exact ih

/-- The text of a well formed type is one of the grammar's. -/
theorem typeText_toString {t : DataType} (h : t.WellFormed) :
    TypeText (toString t).toList t.reread := by
  induction t with
  | scalar s =>
    obtain ⟨segments, htext, hne⟩ :=
      exists_pathText_of_ofKeyword? (Scalar.ofKeyword?_keyword s)
    have hall : (s.keyword.toList.all fun c => !isBlank c) = true := by cases s <;> decide
    have hblank : ∀ c ∈ s.keyword.toList, isBlank c = false := by simpa using hall
    refine TypeText.base ?_
    show BaseText (trim s.keyword.toList) (.scalar s)
    rw [trim_of_not_blank hblank]
    exact BaseText.scalar htext hne (by rw [String.ofList_toList, Scalar.ofKeyword?_keyword])
  | named p =>
    obtain ⟨htext, hblank⟩ := Path.pathText_toString h.1 h.2
    refine TypeText.base ?_
    show BaseText (trim (toString p).toList) (reread (.named p))
    rw [trim_of_not_blank hblank, reread]
    -- The word is looked up before the text is taken for a path.
    cases hword : Scalar.ofKeyword? (toString p) with
    | some s => exact BaseText.scalar htext h.1 (by rwa [String.ofList_toList])
    | none => exact BaseText.path htext h.1 (by rwa [String.ofList_toList])
  | list item ih =>
    have hname : IsSegment "Vec".toList := isSegment_iff.2 ⟨by decide, by decide +kernel⟩
    have hwrapped := TypeText.wrapped (PathText.last hname.piece) rfl (ih h) blanks_nil
      (Wraps.list (by decide))
    show TypeText ("Vec<" ++ toString item ++ ">").toList (.list item.reread)
    simpa using hwrapped
  | set item ih =>
    have hname : IsSegment "HashSet".toList := isSegment_iff.2 ⟨by decide, by decide +kernel⟩
    have hwrapped := TypeText.wrapped (PathText.last hname.piece) rfl (ih h) blanks_nil
      (Wraps.set (by decide))
    show TypeText ("HashSet<" ++ toString item ++ ">").toList (.set item.reread)
    simpa using hwrapped

/-- A well formed type is written and read as `reread`. -/
theorem ofString?_toString {t : DataType} (h : t.WellFormed) :
    ofString? (toString t) = .ok t.reread :=
  ofChars?_eq_ok_iff.2 (typeText_toString h)

/-- A type that is read is written as a text of `reread`, which is the type
itself unless its innermost path is written as a scalar's word. -/
theorem printed_reread {s : String} {t : DataType} (h : ofString? s = .ok t) :
    ofString? (toString t) = .ok t.reread ∧
      (ofString? (toString t) = .ok t ↔
        ∀ p, t.innermost = .named p → Scalar.ofKeyword? (toString p) = none) := by
  have hwell : t.WellFormed := (ofChars?_eq_ok_iff.1 h).wellFormed
  refine ⟨ofString?_toString hwell, ?_⟩
  rw [ofString?_toString hwell, Except.ok.injEq, reread_eq_self_iff]

/-- A list of sets of a path in two pieces. -/
theorem printed_reread_groups :
    ofString? "Vec< Option<HashSet<app . Group>> >" =
        .ok (.list (.set (.named ⟨["app", "Group"]⟩))) ∧
      ofString? "Vec<HashSet<app::Group>>" = .ok (.list (.set (.named ⟨["app", "Group"]⟩))) :=
  ⟨rfl, (printed_reread (s := "Vec< Option<HashSet<app . Group>> >") rfl).2.2 fun p hp => by
    cases hp
    decide⟩

/-- A path that is written as a scalar's word. -/
theorem printed_uuid_differs :
    ¬∀ (s : String) (t : DataType), ofString? s = .ok t → ofString? (toString t) = .ok t := by
  intro h
  have hread : ofString? "uuid.Uuid" = .ok (.named ⟨["uuid", "Uuid"]⟩) := rfl
  have hagain : ofString? "uuid::Uuid" = .ok (.scalar .uuid) := rfl
  have hsame := h _ _ hread
  rw [show toString (DataType.named ⟨["uuid", "Uuid"]⟩) = "uuid::Uuid" from rfl, hagain] at hsame
  cases hsame

/-! ### The types that come back -/

/-- Inside all collections stands a scalar or a path. -/
theorem innermost_cases (t : DataType) :
    (∃ s, t.innermost = .scalar s) ∨ ∃ p, t.innermost = .named p := by
  induction t with
  | scalar s => exact Or.inl ⟨s, rfl⟩
  | named p => exact Or.inr ⟨p, rfl⟩
  | list item ih => exact ih
  | set item ih => exact ih

/-- Whether a type is well formed is a matter of its innermost path. -/
theorem wellFormed_iff {t : DataType} :
    t.WellFormed ↔
      ∀ p, t.innermost = .named p → p.segments ≠ [] ∧ ∀ s ∈ p.segments, IsSegment s.toList := by
  induction t with
  | scalar s => simp [WellFormed, innermost]
  | named p => simp [WellFormed, innermost]
  | list item ih => exact ih
  | set item ih => exact ih

/-- A type is written and read again, however deep, exactly when a scalar
stands inside all its collections, or a path that can be told from its text. -/
theorem ofString?_toString_eq_ok_iff {t : DataType} :
    ofString? (toString t) = .ok t ↔
      (∃ s, t.innermost = .scalar s) ∨ ∃ p, t.innermost = .named p ∧ p.Readable := by
  constructor
  · intro h
    have hwell : t.WellFormed := (ofChars?_eq_ok_iff.1 h).wellFormed
    rw [ofString?_toString hwell, Except.ok.injEq, reread_eq_self_iff] at h
    refine t.innermost_cases.imp_right ?_
    rintro ⟨p, hp⟩
    obtain ⟨hne, hsegments⟩ := wellFormed_iff.1 hwell p hp
    exact ⟨p, hp, hne, hsegments, h p hp⟩
  · intro h
    -- A scalar is no path, so what is asked of the innermost path holds either way.
    have hpath : ∀ p, t.innermost = .named p → p.Readable := by
      intro p hp
      rcases h with ⟨s, hs⟩ | ⟨q, hq, hreadable⟩
      · rw [hs] at hp
        cases hp
      · rw [hq] at hp
        cases hp
        exact hreadable
    have hwell : t.WellFormed :=
      wellFormed_iff.2 fun p hp => ⟨(hpath p hp).ne_nil, (hpath p hp).segments⟩
    rw [ofString?_toString hwell, Except.ok.injEq, reread_eq_self_iff]
    exact fun p hp => (hpath p hp).no_keyword

example : ofString? (toString (DataType.set (.list (.named ⟨["café", "_9"]⟩)))) =
    .ok (.set (.list (.named ⟨["café", "_9"]⟩))) := rfl

end DataType
end SchemaLinker
