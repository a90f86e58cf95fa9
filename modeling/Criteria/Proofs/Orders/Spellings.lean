import Criteria.Proofs.Orders.Strictness

/-!
# Spellings of sort texts

A sort text spells a list of keys if, between its semicolons, it has an entry for each key in their
order and beside them blank entries alone.  The entry of a key is its field and, for a direction, a
comma and the word of that direction in any mixture of cases; blanks may stand around each part.
The strict reader accepts exactly the texts that spell a list, and reads that list.
-/

namespace Criteria

open Text
open Text.Letter

namespace Direction

/-!
# Directions
-/

def word : Direction -> List Char
  | .ascending => ['a', 's', 'c']
  | .descending => ['d', 'e', 's', 'c']

def Spells (direction : Direction) (token : List Char) : Prop :=
  List.Forall₂ (fun letter c => c = letter ∨ c = letter.toUpper) direction.word token

theorem toLower_of_not_ascii
    {c : Char}
    (h : ¬c.toNat < 0x80) :
    c.toLower = c := by
  unfold Char.toLower
  refine dif_neg ?_
  rintro ⟨_, hle⟩
  have hcode : c.toNat ≤ 90 := hle
  omega

theorem toLower_eq_iff
    {letter : Char}
    (h : letter ∈ ['a', 'c', 'd', 'e', 's'])
    (c : Char) :
    c.toLower = letter ↔ c = letter ∨ c = letter.toUpper := by
  have hascii : letter.toNat < 0x80 ∧ letter.toUpper.toNat < 0x80 := by
    simp only [List.mem_cons, List.not_mem_nil, or_false] at h
    rcases h with rfl | rfl | rfl | rfl | rfl <;>
      exact ⟨by decide, by decide⟩
  by_cases hc : c.toNat < 0x80
  · simp only [List.mem_cons, List.not_mem_nil, or_false] at h
    rcases h with rfl | rfl | rfl | rfl | rfl <;>
      exact forall_ascii (p := fun c => c.toLower = _ ↔ c = _ ∨ c = Char.toUpper _)
        (by decide +kernel) hc
  · rw [toLower_of_not_ascii hc]
    constructor
    · exact Or.inl
    · rintro (hsame | hupper)
      · exact hsame
      · rw [hupper] at hc
        exact absurd hascii.right hc

theorem map_toLower_eq_iff
    {word token : List Char}
    (h : ∀ letter ∈ word, letter ∈ ['a', 'c', 'd', 'e', 's']) :
    token.map Char.toLower = word ↔
      List.Forall₂ (fun letter c => c = letter ∨ c = letter.toUpper) word token := by
  induction word generalizing token with
  | nil => rw [List.map_eq_nil_iff, List.forall₂_nil_left_iff]
  | cons letter word ih =>
      cases token with
      | nil => simp
      | cons c token =>
          rw [List.map_cons, List.cons_eq_cons, List.forall₂_cons,
            toLower_eq_iff (h letter List.mem_cons_self),
            ih fun other hother => h other (List.mem_cons_of_mem letter hother)]

theorem spells_iff
    {direction : Direction} {token : List Char} :
    direction.Spells token ↔ token.map Char.toLower = direction.word := by
  have hletters : ∀ letter ∈ direction.word, letter ∈ ['a', 'c', 'd', 'e', 's'] := by
    cases direction <;> simp [word]
  exact (map_toLower_eq_iff hletters).symm

theorem ofToken?_eq_some_iff
    {direction : Direction} {token : List Char} :
    ofToken? token = some direction ↔ direction.Spells token := by
  rw [spells_iff]
  unfold ofToken?
  dsimp only
  split
  next hasc =>
    rw [hasc]
    cases direction <;> decide
  next hasc =>
    split
    next hdesc =>
      rw [hdesc]
      cases direction <;> decide
    next hdesc =>
      cases direction with
      | ascending => simpa [word] using hasc
      | descending => simpa [word] using hdesc

theorem spells_word
    (direction : Direction) :
    direction.Spells direction.word :=
  List.forall₂_same.mpr fun _ _ => Or.inl rfl

theorem Spells.ne_nil
    {direction : Direction} {token : List Char}
    (h : direction.Spells token) :
    token ≠ [] := by
  rintro rfl
  cases direction <;> cases h

theorem Spells.isPlain
    {direction : Direction} {token : List Char}
    (h : direction.Spells token) :
    ∀ c ∈ token, IsPlain c := by
  have hletters : ∀ letter ∈ direction.word, IsPlain letter ∧ IsPlain letter.toUpper := by
    cases direction <;> simp [word] <;> decide
  unfold Spells at h
  generalize direction.word = word at h hletters
  induction h with
  | nil => simp
  | cons hcase _ ih =>
      rcases List.forall_mem_cons.mp hletters with ⟨hletter, hrest⟩
      refine List.forall_mem_cons.mpr ⟨?_, ih hrest⟩
      rcases hcase with rfl | rfl
      · exact hletter.left
      · exact hletter.right

end Direction

/-!
# Plain parts
-/

theorem not_isBlank_of_isPlain
    {c : Char}
    (h : IsPlain c) :
    isBlank c = false := by
  rcases (isPlain_iff c).mp h with hword | rfl
  · exact not_isBlank_of_isWordChar hword
  · decide

theorem Text.Padded.not_mem
    {core cs : List Char}
    (h : Padded core cs)
    (hcore : ∀ c ∈ core, IsPlain c)
    {mark : Char}
    (hplain : ¬IsPlain mark)
    (hblank : isBlank mark = false) :
    mark ∉ cs := by
  intro hmark
  rcases h.mem hmark with hin | hin
  · exact hplain (hcore mark hin)
  · rw [hblank] at hin
    cases hin

theorem Text.Padded.trimChars_eq
    {core cs : List Char}
    (h : Padded core cs)
    (hcore : ∀ c ∈ core, IsPlain c) :
    trimChars cs = core :=
  (trimChars_eq_iff_padded fun c hc => not_isBlank_of_isPlain (hcore c hc)).mpr h

namespace SortKey

/-!
# Fields
-/

def IsInitial (c : Char) : Prop :=
  ('A' ≤ c ∧ c ≤ 'Z') ∨ ('a' ≤ c ∧ c ≤ 'z') ∨ c = '_'

inductive FieldName : List Char -> Prop where
  | mk {c : Char} {cs : List Char} :
      IsInitial c -> (∀ d ∈ cs, IsPlain d) -> FieldName (c :: cs)

theorem isFieldStart_iff
    (c : Char) :
    isFieldStart c = true ↔ IsInitial c := by
  have hranges : isFieldStart c =
      (decide ('A' ≤ c ∧ c ≤ 'Z') || ('a' ≤ c && c ≤ 'z') || c == '_') := rfl
  simp only [hranges, IsInitial, Bool.or_eq_true, Bool.and_eq_true, decide_eq_true_eq, beq_iff_eq,
    or_assoc]

theorem isFieldChar_iff
    (c : Char) :
    isFieldChar c = true ↔ IsPlain c := by
  rw [isPlain_iff]
  simp [isFieldChar, isWordChar]

theorem isField_iff
    {field : List Char} :
    isField field = true ↔ FieldName field := by
  cases field with
  | nil =>
      constructor
      · intro h
        cases h
      · intro h
        cases h
  | cons c cs =>
      rw [isField, Bool.and_eq_true, isFieldStart_iff, List.all_eq_true]
      simp only [isFieldChar_iff]
      constructor
      · rintro ⟨hc, hcs⟩
        exact .mk hc hcs
      · rintro ⟨hc, hcs⟩
        exact ⟨hc, hcs⟩

theorem FieldName.isPlain
    {field : List Char}
    (h : FieldName field) :
    ∀ c ∈ field, IsPlain c :=
  isPlain_of_isField (isField_iff.mpr h)

theorem FieldName.ne_nil
    {field : List Char}
    (h : FieldName field) :
    field ≠ [] := by
  rintro rfl
  cases h

/-!
# Entries
-/

/-- The field of the key and, for a direction, a comma and its word, with blanks around both. -/
inductive Spells : SortKey -> List Char -> Prop where
  | plain {field : String} {entry : List Char} :
      FieldName field.toList -> Padded field.toList entry -> Spells ⟨field, none⟩ entry
  | directed {field : String} {direction : Direction} {before token after : List Char} :
      FieldName field.toList -> Padded field.toList before ->
        direction.Spells token -> Padded token after ->
          Spells ⟨field, some direction⟩ (before ++ ',' :: after)

variable {key : SortKey} {entry : List Char}

theorem Spells.fieldName
    (h : key.Spells entry) :
    FieldName key.field.toList := by
  cases h with
  | plain hfield _ => exact hfield
  | directed hfield _ _ _ => exact hfield

theorem Spells.semicolon_not_mem
    (h : key.Spells entry) :
    ';' ∉ entry := by
  cases h with
  | plain hfield hentry => exact hentry.not_mem hfield.isPlain (by decide) (by decide)
  | @directed field direction before token after hfield hbefore htoken hafter =>
      have hleft : ';' ∉ before := hbefore.not_mem hfield.isPlain (by decide) (by decide)
      have hright : ';' ∉ after := hafter.not_mem htoken.isPlain (by decide) (by decide)
      simp [hleft, hright]

theorem eq_some_of_spells
    (h : key.Spells entry) :
    ofEntry? entry = some key := by
  cases h with
  | plain hfield hentry =>
      have hcomma : ',' ∉ entry := hentry.not_mem hfield.isPlain (by decide) (by decide)
      have hsplit : split ',' entry = [entry] :=
        split_eq_iff.mpr ⟨by simp, rfl, by simpa using hcomma⟩
      unfold ofEntry?
      rw [hsplit, List.map_singleton, hentry.trimChars_eq hfield.isPlain]
      simp [isField_iff.mpr hfield]
  | @directed field direction before token after hfield hbefore htoken hafter =>
      have hleft : ',' ∉ before := hbefore.not_mem hfield.isPlain (by decide) (by decide)
      have hright : ',' ∉ after := hafter.not_mem htoken.isPlain (by decide) (by decide)
      have hsplit : split ',' (before ++ ',' :: after) = [before, after] :=
        split_eq_iff.mpr ⟨by simp, by simp [joinChars], by simp [hleft, hright]⟩
      unfold ofEntry?
      rw [hsplit, List.map_cons, List.map_singleton, hbefore.trimChars_eq hfield.isPlain,
        hafter.trimChars_eq htoken.isPlain]
      simp [isField_iff.mpr hfield, Direction.ofToken?_eq_some_iff.mpr htoken]

theorem spells_of_eq_some
    (h : ofEntry? entry = some key) :
    key.Spells entry := by
  have hjoined := joinChars_split ',' entry
  unfold ofEntry? at h
  split at h
  next field hpieces =>
    rcases List.map_eq_singleton_iff.mp hpieces with ⟨piece, hsplit, rfl⟩
    rw [hsplit] at hjoined
    split at h
    next hfield =>
      cases h
      rw [← hjoined]
      have hname := isField_iff.mp hfield
      refine .plain ?_ ?_
      · rwa [String.toList_ofList]
      · rw [String.toList_ofList]
        exact padded_trimChars piece
    next => cases h
  next field token hpieces =>
    rcases List.map_eq_cons_iff.mp hpieces with ⟨before, rest, hsplit, rfl, hrest⟩
    rcases List.map_eq_singleton_iff.mp hrest with ⟨after, rfl, rfl⟩
    rw [hsplit] at hjoined
    split at h
    next hfield =>
      rcases Option.map_eq_some_iff.mp h with ⟨direction, hdirection, rfl⟩
      have hname := isField_iff.mp hfield
      have hentry : before ++ ',' :: after = entry := by
        rw [← hjoined, joinChars, joinChars, List.append_assoc]
        rfl
      rw [← hentry]
      refine .directed ?_ ?_ (Direction.ofToken?_eq_some_iff.mp hdirection)
        (padded_trimChars after)
      · rwa [String.toList_ofList]
      · rw [String.toList_ofList]
        exact padded_trimChars before
    next => cases h
  next => cases h

theorem ofEntry?_eq_some_iff :
    ofEntry? entry = some key ↔ key.Spells entry :=
  ⟨spells_of_eq_some, eq_some_of_spells⟩

/-!
# Entries with blanks around them
-/

theorem Spells.of_padded
    {core : List Char}
    (h : key.Spells core)
    (hentry : Padded core entry) :
    key.Spells entry := by
  rcases hentry with ⟨front, back, rfl, hfront, hback⟩
  cases h with
  | plain hfield hcore => exact .plain hfield ((hcore.pad_left hfront).pad_right hback)
  | directed hfield hbefore htoken hafter =>
      rw [List.append_assoc, List.append_assoc, List.cons_append, ← List.append_assoc]
      exact .directed hfield (hbefore.pad_left hfront) htoken (hafter.pad_right hback)

theorem Spells.trimChars
    (h : key.Spells entry) :
    key.Spells (trimChars entry) := by
  cases h with
  | plain hfield hentry =>
      rw [hentry.trimChars_eq hfield.isPlain]
      exact .plain hfield (padded_self _)
  | @directed field direction before token after hfield hbefore htoken hafter =>
      rcases hbefore with ⟨front, inner, rfl, hfront, hinner⟩
      rcases hafter with ⟨outer, back, rfl, houter, hback⟩
      have hcore : Trimmed (front ++ field.toList ++ inner ++ ',' :: (outer ++ token ++ back))
          (field.toList ++ inner ++ ',' :: outer ++ token) := by
        constructor
        case around => exact ⟨front, back, by simp, hfront, hback⟩
        case first =>
          intro c hc
          have hhead : c ∈ field.toList.head? := by
            rwa [List.append_assoc, List.append_assoc,
              List.head?_append_of_ne_nil _ hfield.ne_nil] at hc
          exact not_isBlank_of_isPlain (hfield.isPlain c (List.mem_of_mem_head? hhead))
        case last =>
          intro c hc
          have hlast : c ∈ token.getLast? := by
            rwa [List.getLast?_append_of_ne_nil _ htoken.ne_nil] at hc
          exact not_isBlank_of_isPlain (htoken.isPlain c (List.mem_of_mem_getLast? hlast))
      rw [hcore.trimChars_eq, List.append_assoc, List.cons_append]
      exact .directed hfield ((padded_self _).pad_right hinner) htoken
        ((padded_self _).pad_left houter)

theorem Spells.not_blank
    (h : key.Spells entry) :
    Text.trimChars entry ≠ [] := by
  intro hnil
  have hkey := eq_some_of_spells h.trimChars
  rw [hnil] at hkey
  cases hkey

theorem parse_trimChars_iff :
    parse (String.ofList (Text.trimChars entry)) = .ok key ↔ key.Spells entry := by
  have hparse : parse (String.ofList (Text.trimChars entry)) = .ok key ↔
      key.Spells (Text.trimChars entry) := by
    rw [← ofEntry?_eq_some_iff]
    unfold parse
    rw [String.toList_ofList]
    cases ofEntry? (Text.trimChars entry) <;> simp
  rw [hparse]
  exact ⟨fun h => h.of_padded (padded_trimChars entry), Spells.trimChars⟩

theorem exists_spells
    (h : FieldName key.field.toList) :
    ∃ entry, key.Spells entry := by
  rcases key with ⟨field, direction?⟩
  cases direction? with
  | none => exact ⟨field.toList, .plain h (padded_self _)⟩
  | some direction =>
      exact ⟨field.toList ++ ',' :: direction.word,
        .directed h (padded_self _) direction.spells_word (padded_self _)⟩

end SortKey

namespace RowOrder

/-!
# Sort texts
-/

/-- The entries hold the keys in their order, and blank ones beside them. -/
inductive Lists : List SortKey -> List (List Char) -> Prop where
  | nil : Lists [] []
  | blank {keys : List SortKey} {entry : List Char} {entries : List (List Char)} :
      Blank entry -> Lists keys entries -> Lists keys (entry :: entries)
  | key {key : SortKey} {keys : List SortKey} {entry : List Char} {entries : List (List Char)} :
      key.Spells entry -> Lists keys entries -> Lists (key :: keys) (entry :: entries)

def Spells (keys : List SortKey) (sort : String) : Prop :=
  ∃ entries, Lists keys entries ∧ sort.toList = joinChars [';'] entries

variable {keys : List SortKey} {entries : List (List Char)}

theorem Lists.semicolon_not_mem
    (h : Lists keys entries) :
    ∀ entry ∈ entries, ';' ∉ entry := by
  induction h with
  | nil => simp
  | blank hblank _ ih =>
      refine List.forall_mem_cons.mpr ⟨?_, ih⟩
      intro hmark
      have hno := hblank ';' hmark
      revert hno
      decide
  | key hkey _ ih => exact List.forall_mem_cons.mpr ⟨hkey.semicolon_not_mem, ih⟩

theorem Lists.fieldNames
    (h : Lists keys entries) :
    ∀ key ∈ keys, SortKey.FieldName key.field.toList := by
  induction h with
  | nil => simp
  | blank _ _ ih => exact ih
  | key hkey _ ih => exact List.forall_mem_cons.mpr ⟨hkey.fieldName, ih⟩

theorem exists_lists
    (h : ∀ key ∈ keys, SortKey.FieldName key.field.toList) :
    ∃ entries, Lists keys entries := by
  induction keys with
  | nil => exact ⟨[], .nil⟩
  | cons key keys ih =>
      rcases List.forall_mem_cons.mp h with ⟨hkey, hkeys⟩
      rcases SortKey.exists_spells hkey with ⟨entry, hentry⟩
      rcases ih hkeys with ⟨entries, hentries⟩
      exact ⟨entry :: entries, .key hentry hentries⟩

theorem exists_spells_iff :
    (∃ sort, Spells keys sort) ↔ ∀ key ∈ keys, SortKey.FieldName key.field.toList := by
  constructor
  · rintro ⟨sort, entries, hentries, _⟩
    exact hentries.fieldNames
  · intro h
    rcases exists_lists h with ⟨entries, hentries⟩
    exact ⟨String.ofList (joinChars [';'] entries), entries, hentries, String.toList_ofList⟩

/-!
# The strict reader
-/

theorem parseAll_eq_ok_iff
    {found : List String} :
    parseAll found = .ok keys ↔
      List.Forall₂ (fun entry key => SortKey.parse entry = .ok key) found keys := by
  induction found generalizing keys with
  | nil =>
      rw [List.forall₂_nil_left_iff, parseAll]
      simp [eq_comm]
  | cons entry found ih =>
      rw [parseAll, List.forall₂_cons_left_iff]
      constructor
      · intro h
        cases hkey : SortKey.parse entry with
        | error fault =>
            rw [hkey] at h
            cases h
        | ok key =>
            cases hrest : parseAll found with
            | error fault =>
                rw [hkey, hrest] at h
                cases h
            | ok others =>
                rw [hkey, hrest] at h
                cases h
                exact ⟨key, others, rfl, ih.mp hrest, rfl⟩
      · rintro ⟨key, others, hkey, hothers, rfl⟩
        rw [hkey, ih.mpr hothers]
        rfl

def cores (entries : List (List Char)) : List String :=
  ((entries.map trimChars).filter fun entry => !entry.isEmpty).map String.ofList

theorem cores_cons_of_blank
    {entry : List Char}
    (h : Blank entry) :
    cores (entry :: entries) = cores entries := by
  unfold cores
  rw [List.map_cons, trimChars_eq_nil_iff.mpr h]
  rfl

theorem cores_cons_of_not_blank
    {entry : List Char}
    (h : trimChars entry ≠ []) :
    cores (entry :: entries) = String.ofList (trimChars entry) :: cores entries := by
  unfold cores
  rw [List.map_cons, List.filter_cons_of_pos (by simpa using h), List.map_cons]

theorem lists_iff :
    Lists keys entries ↔
      List.Forall₂ (fun entry key => SortKey.parse entry = .ok key) (cores entries) keys := by
  constructor
  · intro h
    induction h with
    | nil => exact .nil
    | blank hblank _ ih =>
        rw [cores_cons_of_blank hblank]
        exact ih
    | key hkey _ ih =>
        rw [cores_cons_of_not_blank hkey.not_blank]
        exact .cons (SortKey.parse_trimChars_iff.mpr hkey) ih
  · intro h
    induction entries generalizing keys with
    | nil =>
        cases h
        exact .nil
    | cons entry entries ih =>
        by_cases hblank : trimChars entry = []
        · rw [cores_cons_of_blank (trimChars_eq_nil_iff.mp hblank)] at h
          exact .blank (trimChars_eq_nil_iff.mp hblank) (ih h)
        · rw [cores_cons_of_not_blank hblank] at h
          cases h with
          | cons hkey hrest => exact .key (SortKey.parse_trimChars_iff.mp hkey) (ih hrest)

theorem parse_of_lists
    {sort : String}
    (h : Lists keys entries)
    (hsort : sort.toList = joinChars [';'] entries) :
    parse sort = .ok keys := by
  have hcores : RowOrder.entries sort = cores entries := by
    show cores (split ';' sort.toList) = cores entries
    cases entries with
    | nil =>
        rw [hsort]
        rfl
    | cons entry entries =>
        rw [split_eq_iff.mpr ⟨List.cons_ne_nil _ _, hsort.symm, h.semicolon_not_mem⟩]
  rw [parse, hcores]
  exact parseAll_eq_ok_iff.mpr (lists_iff.mp h)

theorem spells_of_parse
    {sort : String}
    (h : parse sort = .ok keys) :
    Spells keys sort :=
  ⟨split ';' sort.toList, lists_iff.mpr (parseAll_eq_ok_iff.mp h),
    (joinChars_split ';' sort.toList).symm⟩

/-- The strict reader reads a list of keys from exactly the texts that spell it, and there is such a
text for exactly the lists of keys with fields. -/
theorem parse_eq_ok_iff_spells
    (keys : List SortKey) :
    (∀ sort, parse sort = .ok keys ↔ Spells keys sort) ∧
      ((∃ sort, Spells keys sort) ↔ ∀ key ∈ keys, SortKey.FieldName key.field.toList) := by
  refine ⟨?_, exists_spells_iff⟩
  intro sort
  constructor
  · exact spells_of_parse
  · rintro ⟨entries, hentries, hsort⟩
    exact parse_of_lists hentries hsort

example :
    parse ";\u2003 userName\t, DeSC ; ;\u00a0_a.b1" =
      .ok [⟨"userName", some .descending⟩, ⟨"_a.b1", none⟩] := by
  decide +kernel

end RowOrder
end Criteria
