import SchemaLinker.Proofs.PathText

/-!
# `SchemaLinker.Proofs.Grammar`: the texts that express a type

`TypeText` is the grammar of type expressions: a base, or a head that names a
wrapper and the item between its brackets. The reader knows no brackets: it
cuts the text at every `<` and takes one `>` per cut off the end. Both agree,
since a head or a base holds no bracket, so the cuts are the opening brackets
of the grammar, and what stands behind the innermost `<` is the base and the
closing brackets (`splitHeads_append`, `splitHeads_head`).

Put together again, the cut text is the text (`rejoin_splitHeads`): by this
every text that is read has a derivation (`typeText_of_readWrapped`).

`ofString?_accepts` is the outcome: the types that are read are those of the
grammar, and every other text is refused.
-/

set_option autoImplicit false

namespace SchemaLinker.DataType

open Text

/-! ### The grammar -/

/-- The type of an item in the wrapper of a name. -/
inductive Wraps (name : String) (item : DataType) : DataType → Prop
  | bare : name ∈ ["Option", "Box"] → Wraps name item item
  | list : name ∈ ["Vec", "VecDeque", "LinkedList"] → Wraps name item (.list item)
  | set : name ∈ ["HashSet", "BTreeSet", "IndexSet"] → Wraps name item (.set item)

/-- The words that express a type without wrappers: paths, some of which are
words of scalars. -/
inductive BaseText (word : List Char) : DataType → Prop
  | scalar {segments : List String} {s : Scalar} : PathText word segments → segments ≠ [] →
    Scalar.ofKeyword? (String.ofList word) = some s → BaseText word (.scalar s)
  | path {segments : List String} : PathText word segments → segments ≠ [] →
    Scalar.ofKeyword? (String.ofList word) = none → BaseText word (.named ⟨segments⟩)

/-- The texts that express a type. -/
inductive TypeText : List Char → DataType → Prop
  | base {cs : List Char} {t : DataType} : BaseText (trim cs) t → TypeText cs t
  | wrapped {head inner b : List Char} {segments : List String} {name : String}
    {item t : DataType} : PathText head segments → segments.getLast? = some name →
    TypeText inner item → Blanks b → Wraps name item t →
    TypeText (head ++ '<' :: (inner ++ '>' :: b)) t

/-- The words that wrap an item are those the parser knows. -/
theorem wraps_iff {name : String} {item t : DataType} :
    Wraps name item t ↔ ∃ w, Wrapper.ofName? name = some w ∧ w.apply item = t := by
  have hlist : ∀ n ∈ ["Vec", "VecDeque", "LinkedList"], Wrapper.ofName? n = some .list := by decide
  have hset : ∀ n ∈ ["HashSet", "BTreeSet", "IndexSet"], Wrapper.ofName? n = some .set := by decide
  constructor
  · rintro (h | h | h)
    · exact ⟨.transparent, if_pos h, rfl⟩
    · exact ⟨.list, hlist name h, rfl⟩
    · exact ⟨.set, hset name h, rfl⟩
  · rintro ⟨w, hw, rfl⟩
    rw [Wrapper.ofName?] at hw
    split at hw
    · cases hw
      exact Wraps.bare ‹_›
    · split at hw
      · cases hw
        exact Wraps.list ‹_›
      · split at hw
        · cases hw
          exact Wraps.set ‹_›
        · cases hw

/-! ### The base -/

/-- Every base text spells a path, also the word for a scalar type. -/
theorem BaseText.exists_pathText {word : List Char} {t : DataType} (h : BaseText word t) :
    ∃ segments, PathText word segments ∧ segments ≠ [] := by
  cases h with
  | scalar htext hne _ => exact ⟨_, htext, hne⟩
  | path htext hne _ => exact ⟨_, htext, hne⟩

/-- A text whose word is a base opens no bracket. -/
theorem BaseText.not_mem_open {cs : List Char} {t : DataType} (h : BaseText (trim cs) t) :
    '<' ∉ cs := by
  obtain ⟨b, b', hb, hb', hcs⟩ := exists_blanks_trim cs
  obtain ⟨segments, htext, -⟩ := h.exists_pathText
  rw [hcs, List.mem_append, List.mem_append]
  rintro ((hmem | hmem) | hmem)
  · exact hb.not_mem (by decide) hmem
  · exact htext.not_mem_of_bracket (by decide) hmem
  · exact hb'.not_mem (by decide) hmem

/-- The words of scalars are paths. -/
theorem exists_pathText_of_ofKeyword? {word : String} {s : Scalar}
    (h : Scalar.ofKeyword? word = some s) :
    ∃ segments, PathText word.toList segments ∧ segments ≠ [] := by
  have hword : word ∈ Scalar.all.map Scalar.keyword ++ Scalar.aliases.map Prod.fst := by
    rw [List.mem_append]
    rcases Option.or_eq_some_iff.1 h with hown | ⟨-, halias⟩
    · have hkey : s.keyword = word := by simpa using List.find?_some hown
      exact Or.inl (List.mem_map.2 ⟨s, List.mem_of_find?_eq_some hown, hkey⟩)
    · obtain ⟨before, behind, htable, -⟩ := List.lookup_eq_some_iff.1 halias
      exact Or.inr (List.mem_map.2 ⟨(word, s), by simp [htable], rfl⟩)
  have hall : ∀ w ∈ Scalar.all.map Scalar.keyword ++ Scalar.aliases.map Prod.fst,
      (readPath w.toList).isOk = true := by decide +kernel
  cases hread : readPath word.toList with
  | ok p => exact ⟨p.segments, readPath_eq_ok_iff.1 hread⟩
  | error problem =>
    have hok := hall word hword
    rw [hread] at hok
    cases hok

/-- Without brackets the texts that are read are those of the grammar, among blanks. -/
theorem readBase_eq_ok_iff {cs : List Char} {t : DataType} :
    readBase cs = .ok t ↔ BaseText (trim cs) t := by
  simp only [readBase]
  constructor
  · intro h
    split at h
    · cases h
    · split at h
      · cases h
      · split at h
        · rename_i s hs
          cases h
          obtain ⟨segments, htext, hne⟩ := exists_pathText_of_ofKeyword? hs
          rw [String.toList_ofList] at htext
          exact BaseText.scalar htext hne hs
        · rename_i hs
          cases hread : readPath (trim cs) with
          | error problem => rw [hread] at h; cases h
          | ok p =>
            rw [hread] at h
            cases h
            obtain ⟨htext, hne⟩ := readPath_eq_ok_iff.1 hread
            exact BaseText.path htext hne hs
  · -- A path has a character and no bracket, so the reader gets to the word.
    intro h
    obtain ⟨segments, htext, hne⟩ := h.exists_pathText
    have hsome : ¬(trim cs).isEmpty = true := by simpa using htext.ne_nil hne
    have hclose : ¬(trim cs).contains '>' = true := by
      simpa using htext.not_mem_of_bracket (c := '>') (by decide)
    rw [if_neg hsome, if_neg hclose]
    cases h with
    | scalar _ _ hs => rw [hs]
    | path htext hne hs =>
      rw [hs]
      show (readPath (trim cs)).map DataType.named = _
      rw [readPath_eq_ok_iff.2 (show PathText _ (Path.mk _).segments ∧ _ from ⟨htext, hne⟩)]
      rfl

/-! ### Cutting at the opening brackets -/

/-- The text that was cut. -/
def rejoin (heads : List (List Char)) (reversed : List Char) : List Char :=
  heads.foldr (fun head rest => head ++ '<' :: rest) reversed.reverse

/-- One head more is one bracket more in front. -/
theorem rejoin_cons (head : List Char) (heads : List (List Char)) (reversed : List Char) :
    rejoin (head :: heads) reversed = head ++ '<' :: rejoin heads reversed := rfl

/-- What was cut off last ends the text. -/
theorem rejoin_append (heads : List (List Char)) (xs ys : List Char) :
    rejoin heads (xs ++ ys) = rejoin heads ys ++ xs.reverse := by
  induction heads with
  | nil => simp [rejoin]
  | cons head heads ih => rw [rejoin_cons, rejoin_cons, ih, List.append_assoc, List.cons_append]

/-- Cutting off the heads loses nothing of the text. -/
theorem rejoin_splitHeads (piece cs : List Char) :
    rejoin (splitHeads piece cs).1 (splitHeads piece cs).2 = piece.reverse ++ cs := by
  fun_induction splitHeads piece cs with
  | case1 piece => simp [rejoin]
  | case2 piece rest heads reversed hsplit ih =>
    rw [hsplit] at ih
    rw [rejoin_cons, ih]
    rfl
  | case3 piece c rest _ ih => simpa using ih

/-- A text without `<` goes to the current piece as it is. -/
theorem splitHeads_pass {cs : List Char} (h : '<' ∉ cs) (piece rest : List Char) :
    splitHeads piece (cs ++ rest) = splitHeads (cs.reverse ++ piece) rest := by
  induction cs generalizing piece with
  | nil => rfl
  | cons c cs ih =>
    rw [List.mem_cons, not_or] at h
    rw [List.cons_append, splitHeads.eq_3 piece c _ fun hc => h.1 hc.symm, ih h.2,
      List.reverse_cons, List.append_assoc]
    rfl

/-- A text without `<` in front of an opening bracket is the first head. -/
theorem splitHeads_head {head : List Char} (h : '<' ∉ head) (rest : List Char) :
    splitHeads [] (head ++ '<' :: rest) =
      (head :: (splitHeads [] rest).1, (splitHeads [] rest).2) := by
  rw [splitHeads_pass h, List.append_nil, splitHeads, List.reverse_reverse]

/-- A text without `<` at the end is all behind the last cut. -/
theorem splitHeads_append {ys : List Char} (h : '<' ∉ ys) (piece xs : List Char) :
    splitHeads piece (xs ++ ys) =
      ((splitHeads piece xs).1, ys.reverse ++ (splitHeads piece xs).2) := by
  fun_induction splitHeads piece xs with
  | case1 piece =>
    have hpass := splitHeads_pass h piece []
    rwa [List.append_nil] at hpass
  | case2 piece rest heads reversed hsplit ih => rw [List.cons_append, splitHeads, ih, hsplit]
  | case3 piece c rest hc ih => rw [List.cons_append, splitHeads.eq_3 _ _ _ hc, ih]

/-- A closing bracket is taken off when only blanks stand behind it. -/
theorem closeReversed_eq_some_iff {reversed inner : List Char} :
    closeReversed reversed = some inner ↔ ∃ b, Blanks b ∧ reversed = b ++ '>' :: inner := by
  rw [closeReversed]
  constructor
  · intro h
    obtain ⟨b, hb, hreversed⟩ := exists_blanks_trimStart reversed
    split at h
    · rename_i rest hstart
      cases h
      exact ⟨b, hb, by rw [← hstart]; exact hreversed⟩
    · cases h
  · rintro ⟨b, hb, rfl⟩
    rw [trimStart_append hb]
    rfl

/-! ### Reading and the grammar -/

/-- What it takes to read one wrapper. -/
theorem readWrapped_cons_eq_ok_iff {head : List Char} {heads : List (List Char)}
    {reversed : List Char} {t : DataType} :
    readWrapped (head :: heads) reversed = .ok t ↔ ∃ inner p item,
      closeReversed reversed = some inner ∧ readPath head = .ok p ∧
        readWrapped heads inner = .ok item ∧ Wraps p.simpleName item t := by
  simp only [wraps_iff]
  rw [readWrapped]
  cases closeReversed reversed with
  | none => simp
  | some inner =>
    cases readPath head with
    | error problem => simp [bind, Except.bind]
    | ok p =>
      cases hitem : readWrapped heads inner with
      | error problem => simp [bind, Except.bind, hitem]
      | ok item =>
        cases hname : Wrapper.ofName? p.simpleName with
        | none => simp [bind, Except.bind, hitem, hname]
        | some w => simp [bind, Except.bind, hitem, hname]

/-- A text that is read out of its pieces has a derivation, by induction on
the wrappers. -/
theorem typeText_of_readWrapped {heads : List (List Char)} {reversed : List Char} {t : DataType}
    (h : readWrapped heads reversed = .ok t) : TypeText (rejoin heads reversed) t := by
  induction heads generalizing reversed t with
  | nil => exact TypeText.base (readBase_eq_ok_iff.1 h)
  | cons head heads ih =>
    obtain ⟨inner, p, item, hclose, hp, hitem, hwraps⟩ := readWrapped_cons_eq_ok_iff.1 h
    obtain ⟨b, hb, rfl⟩ := closeReversed_eq_some_iff.1 hclose
    obtain ⟨htext, hne⟩ := readPath_eq_ok_iff.1 hp
    have hlast : p.segments.getLast? = some p.simpleName := Path.getLast?_segments hne
    -- The bracket and the blanks that were taken off stand behind the item again.
    have hjoin : rejoin heads (b ++ '>' :: inner) = rejoin heads inner ++ '>' :: b.reverse := by
      rw [← List.singleton_append, ← List.append_assoc, rejoin_append]
      simp
    rw [rejoin_cons, hjoin]
    exact TypeText.wrapped htext hlast (ih hitem) hb.reverse hwraps

/-- Every derivation is read. -/
theorem TypeText.ofChars?_eq {cs : List Char} {t : DataType} (h : TypeText cs t) :
    ofChars? cs = .ok t := by
  rw [ofChars?]
  induction h with
  | @base cs t h =>
    -- Nothing is cut, so all of the text is the base.
    have hcut := splitHeads_append h.not_mem_open [] []
    rw [List.nil_append] at hcut
    rw [hcut]
    show readBase (cs.reverse ++ []).reverse = _
    rw [List.append_nil, List.reverse_reverse]
    exact readBase_eq_ok_iff.2 h
  | @wrapped head inner b segments name item t htext hlast _ hb hwraps ih =>
    have hblank : '<' ∉ '>' :: b :=
      List.not_mem_cons_of_ne_of_not_mem (by decide) (hb.not_mem (by decide))
    -- The first cut ends the head, and the bracket that belongs to it is the last of the text.
    rw [splitHeads_head (htext.not_mem_of_bracket (by decide)), splitHeads_append hblank]
    have hclose : closeReversed (('>' :: b).reverse ++ (splitHeads [] inner).2) =
        some (splitHeads [] inner).2 :=
      closeReversed_eq_some_iff.2 ⟨b.reverse, hb.reverse, by simp⟩
    have hne : segments ≠ [] := by
      rintro rfl
      cases hlast
    have hhead : readPath head = .ok ⟨segments⟩ := readPath_eq_ok_iff.2 ⟨htext, hne⟩
    have hname : (Path.mk segments).simpleName = name := by
      rw [Path.simpleName, hlast]
      rfl
    rw [← hname] at hwraps
    exact readWrapped_cons_eq_ok_iff.2 ⟨_, ⟨segments⟩, item, hclose, hhead, ih, hwraps⟩

/-- A type is read from exactly the texts of the grammar. -/
theorem ofChars?_eq_ok_iff {cs : List Char} {t : DataType} :
    ofChars? cs = .ok t ↔ TypeText cs t := by
  refine ⟨fun h => ?_, TypeText.ofChars?_eq⟩
  have htext := typeText_of_readWrapped h
  rwa [rejoin_splitHeads] at htext

/-- From every text of the grammar the type that it expresses is read, and
every other text is refused with the reason. -/
theorem ofString?_accepts (s : String) :
    (∀ t, ofString? s = .ok t ↔ TypeText s.toList t) ∧
      ((∀ t, ¬TypeText s.toList t) ↔ ∃ problem, ofString? s = .error problem) := by
  refine ⟨fun t => ofChars?_eq_ok_iff, ?_⟩
  cases hread : ofString? s with
  | ok t =>
    have htext : TypeText s.toList t := ofChars?_eq_ok_iff.1 hread
    exact ⟨fun h => absurd htext (h t), fun ⟨_, h⟩ => by cases h⟩
  | error problem =>
    refine ⟨fun _ => ⟨problem, rfl⟩, fun _ t htext => ?_⟩
    have hok : ofString? s = .ok t := ofChars?_eq_ok_iff.2 htext
    rw [hread] at hok
    cases hok

example : ofString? " Option < Vec<app.:: Person >> " =
    .ok (.list (.named ⟨["app", "Person"]⟩)) := rfl

end SchemaLinker.DataType
