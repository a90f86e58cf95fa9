import Criteria.Naming
import Criteria.Proofs.Text.Pieces

/-!
# Alphabets of derived names

An alphabet is a set of characters that holds the separator of words and the case images of its
members.  Names that are derived from formats, overrides and fields written in an alphabet are
written in it again.
-/

namespace Criteria

open Text

structure Alphabet (p : Char -> Prop) : Prop where
  separator : p '_'
  lower : ∀ {c d : Char}, p c -> d ∈ Letter.lower c -> p d
  sigma : p 'Σ' -> p 'ς'
  upper : ∀ {c d : Char}, p c -> d ∈ Letter.upper c -> p d

def WrittenIn (p : Char -> Prop) (text : String) : Prop :=
  ∀ c ∈ text.toList, p c

instance (p : Char -> Prop) [DecidablePred p] : DecidablePred (WrittenIn p) :=
  fun text => decidable_of_iff (text.toList.all (fun c => decide (p c)) = true)
    (by simp [WrittenIn])

/-- Formats and explicit tables; their names and the suffix of entity types reach no statement. -/
structure Naming.WrittenIn (p : Char -> Prop) (naming : Naming) : Prop where
  tableFormat : Criteria.WrittenIn p naming.tableFormat
  bridgeFormat : Criteria.WrittenIn p naming.bridgeFormat
  bridgeKeyFormat : Criteria.WrittenIn p naming.bridgeKeyFormat
  bridges : ∀ {names table : String},
    naming.bridges.find? names = some table -> Criteria.WrittenIn p table
  tables : ∀ {name table : String},
    naming.tables.find? name = some table -> Criteria.WrittenIn p table

theorem Naming.WrittenIn.of_formats
    {p : Char -> Prop} {naming : Naming}
    (htable : Criteria.WrittenIn p naming.tableFormat)
    (hbridge : Criteria.WrittenIn p naming.bridgeFormat)
    (hkey : Criteria.WrittenIn p naming.bridgeKeyFormat)
    (hbridges : naming.bridges = .empty)
    (htables : naming.tables = .empty) :
    naming.WrittenIn p := by
  refine ⟨htable, hbridge, hkey, ?_, ?_⟩
  · intro names table h
    rw [hbridges] at h
    cases h
  · intro name table h
    rw [htables] at h
    cases h

variable {p : Char -> Prop}

/-!
# Spellings
-/

namespace Words

theorem flatten_prepend
    (c : Char) (words : List (List Char)) :
    (prepend c words).flatten = c :: words.flatten := by
  cases words <;> rfl

theorem flatten_cutAtSeams
    (cs : List Char) :
    (cutAtSeams cs).flatten = cs := by
  fun_induction cutAtSeams cs with
  | case1 => rfl
  | case2 c => rfl
  | case3 c d cs hseam ih => rw [List.flatten_cons, ih, List.singleton_append]
  | case4 c d cs hseam ih => rw [flatten_prepend, ih]

theorem flatten_ofName
    (name : List Char) :
    (ofName name).flatten = name.filter fun c => !isSeparator c := by
  rw [← flatten_splitWhere, ofName]
  induction splitWhere isSeparator name with
  | nil => rfl
  | cons piece pieces ih =>
      rw [List.flatMap_cons, List.flatten_append, flatten_cutAtSeams, ih, List.flatten_cons]

theorem of_mem_ofName
    {name word : List Char} {c : Char}
    (hword : word ∈ ofName name)
    (hc : c ∈ word) :
    c ∈ name ∧ isSeparator c = false := by
  have hflat : c ∈ (ofName name).flatten := List.mem_flatten_of_mem hword hc
  rw [flatten_ofName, List.mem_filter] at hflat
  exact hflat.imp_right fun h => by simpa using h

theorem mem_of_mem_ofName
    {name word : List Char} {c : Char}
    (hword : word ∈ ofName name)
    (hc : c ∈ word) :
    c ∈ name :=
  (of_mem_ofName hword hc).left

end Words

theorem Alphabet.lowerAll
    (hp : Alphabet p)
    {cs : List Char}
    (h : ∀ c ∈ cs, p c) :
    ∀ c ∈ Letter.lowerAll cs, p c := by
  intro c hc
  rcases Letter.of_mem_lowerAll hc with ⟨d, hd, himage | ⟨rfl, rfl⟩⟩
  · exact hp.lower (h d hd) himage
  · exact hp.sigma (h 'Σ' hd)

theorem Alphabet.capitalize
    (hp : Alphabet p)
    {cs : List Char}
    (h : ∀ c ∈ cs, p c) :
    ∀ c ∈ Words.capitalize cs, p c := by
  intro c hc
  cases cs with
  | nil => cases hc
  | cons d cs =>
      rcases List.mem_append.mp hc with hfirst | hrest
      · exact hp.upper (h d List.mem_cons_self) hfirst
      · exact hp.lowerAll (fun e he => h e (List.mem_cons_of_mem d he)) c hrest

theorem Alphabet.applyChars
    (hp : Alphabet p)
    (spelling : Spelling)
    {name : List Char}
    (h : ∀ c ∈ name, p c) :
    ∀ c ∈ spelling.applyChars name, p c := by
  have hword : ∀ word ∈ Words.ofName name, ∀ c ∈ word, p c := by
    intro word hword c hc
    exact h c (Words.mem_of_mem_ofName hword hc)
  intro c hc
  cases spelling with
  | verbatim => exact h c hc
  | snake =>
      rcases mem_joinChars hc with hseparator | ⟨piece, hpiece, hin⟩
      · rw [List.mem_singleton.mp hseparator]
        exact hp.separator
      · rcases List.mem_map.mp hpiece with ⟨word, hmem, hlower⟩
        rw [← hlower] at hin
        exact hp.lowerAll (hword word hmem) c hin
  | camel =>
      rw [Spelling.applyChars] at hc
      cases hwords : Words.ofName name with
      | nil =>
          rw [hwords] at hc
          cases hc
      | cons first rest =>
          rw [hwords] at hc hword
          rcases List.mem_append.mp hc with hfirst | hrest
          · exact hp.lowerAll (hword first List.mem_cons_self) c hfirst
          · rcases List.mem_flatMap.mp hrest with ⟨word, hmem, hin⟩
            exact hp.capitalize (hword word (List.mem_cons_of_mem first hmem)) c hin

/-!
# Formats and derived names
-/

theorem WrittenIn.of_subset
    {text : String} {cs : List Char}
    (h : Criteria.WrittenIn p text)
    (hsubset : cs ⊆ text.toList) :
    Criteria.WrittenIn p (String.ofList cs) := by
  intro c hc
  rw [String.toList_ofList] at hc
  exact h c (hsubset hc)

theorem Naming.fill_of_firstCut
    {format : String} {before after : List Char}
    (h : FirstCut slot format.toList before after)
    (name : String) :
    fill format [name] = String.ofList (before ++ name.toList ++ after) := by
  show String.ofList (replaceFirst slot name.toList format.toList) = _
  rw [replaceFirst, cutFirst?_eq_some_iff.mpr h]

theorem Naming.fill_cons
    (format name : String) (names : List String) :
    fill format (name :: names) = fill (fill format [name]) names := by
  unfold fill
  rw [List.foldl_cons, String.toList_ofList]
  rfl

theorem writtenIn_fill
    {format : String} {names : List String}
    (hformat : Criteria.WrittenIn p format)
    (hnames : ∀ name ∈ names, Criteria.WrittenIn p name) :
    Criteria.WrittenIn p (Naming.fill format names) := by
  have hfold : ∀ (names : List String) (text : List Char),
      (∀ c ∈ text, p c) -> (∀ name ∈ names, Criteria.WrittenIn p name) ->
        ∀ c ∈ names.foldl (fun text name => replaceFirst Naming.slot name.toList text) text,
          p c := by
    intro names
    induction names with
    | nil =>
        intro text htext _
        exact htext
    | cons name names ih =>
        intro text htext hnames
        apply ih
        · intro c hc
          rcases mem_replaceFirst hc with hname | hrest
          · exact hnames name List.mem_cons_self c hname
          · exact htext c hrest
        · intro other hother
          exact hnames other (List.mem_cons_of_mem name hother)
  intro c hc
  rw [Naming.fill, String.toList_ofList] at hc
  exact hfold names format.toList hformat hnames c hc

namespace Naming
namespace WrittenIn

variable {naming : Naming}

theorem column
    (hp : Alphabet p)
    (naming : Naming)
    {field : String}
    (hfield : Criteria.WrittenIn p field) :
    Criteria.WrittenIn p (naming.column field) := by
  intro c hc
  rw [Naming.column, Spelling.apply, String.toList_ofList] at hc
  exact hp.applyChars naming.spelling hfield c hc

theorem domainTable
    (h : naming.WrittenIn p)
    {domain : String}
    (hdomain : Criteria.WrittenIn p domain) :
    Criteria.WrittenIn p (naming.domainTable domain) := by
  unfold Naming.domainTable
  cases hfound : naming.tables.find? domain with
  | some table => exact h.tables hfound
  | none =>
      refine writtenIn_fill h.tableFormat ?_
      intro name hname
      rwa [List.mem_singleton.mp hname]

theorem stem
    (naming : Naming)
    {typeName : String}
    (hname : Criteria.WrittenIn p typeName) :
    Criteria.WrittenIn p (naming.stem typeName) := by
  unfold Naming.stem
  split
  next c cs hdrop =>
    refine hname.of_subset ?_
    rw [dropEnd?_eq_some_iff.mp hdrop]
    exact List.subset_append_left _ _
  next => exact hname

theorem entityTable
    (hp : Alphabet p)
    (h : naming.WrittenIn p)
    {typeName : String}
    (hname : Criteria.WrittenIn p typeName) :
    Criteria.WrittenIn p (naming.entityTable typeName) := by
  unfold Naming.entityTable
  cases hfound : naming.tables.find? typeName with
  | some table => exact h.tables hfound
  | none => exact h.domainTable (column hp naming (stem naming hname))

theorem bridgeTable
    (h : naming.WrittenIn p)
    {left right : String}
    (hleft : Criteria.WrittenIn p left)
    (hright : Criteria.WrittenIn p right) :
    Criteria.WrittenIn p (naming.bridgeTable left right) := by
  have hfill : Criteria.WrittenIn p (fill naming.bridgeFormat [left, right]) := by
    refine writtenIn_fill h.bridgeFormat ?_
    intro name hname
    rcases List.mem_cons.mp hname with hfirst | hrest
    · rwa [hfirst]
    · rwa [List.mem_singleton.mp hrest]
  unfold Naming.bridgeTable
  cases hforth : naming.bridges.find? (pair left right) with
  | some table => exact h.bridges hforth
  | none =>
      cases hback : naming.bridges.find? (pair right left) with
      | some table => exact h.bridges hback
      | none => exact hfill

theorem bridgeKey
    (h : naming.WrittenIn p)
    {domain : String}
    (hdomain : Criteria.WrittenIn p domain) :
    Criteria.WrittenIn p (naming.bridgeKey domain) := by
  refine writtenIn_fill h.bridgeKeyFormat ?_
  intro name hname
  rwa [List.mem_singleton.mp hname]

end WrittenIn
end Naming
end Criteria
