import Mathlib.Data.List.Forall2
import Criteria.Path
import Criteria.Proofs.Text.Pieces

/-!
# Tokens of a path

A piece between commas, blanks at its ends removed, spells a token in one of three ways.  A path is
read exactly if it has a comma, each of its pieces spells a token, and the last token has no key.
What is read is then determined by the tokens.
-/

namespace Criteria

open Text

namespace PathToken

/-!
# What a piece spells
-/

structure EntityName (cs : List Char) : Prop where
  nonempty : cs ≠ []
  chars : ∀ c ∈ cs, isEntityChar c = true

/-- An entity alone; an entity before the first arrow to the right and a key after it; or, without
such an arrow, a key before the first arrow to the left and an entity after it.  Blanks around an
entity or a key beside an arrow do not count. -/
inductive Spells : List Char -> PathToken -> Prop where
  | plain {piece : List Char} :
      EntityName piece -> Spells piece (.plain (String.ofList piece))
  | refersToNext {piece before after : List Char} :
      FirstCut rightArrow piece before after ->
        EntityName (trimChars before) -> trimChars after ≠ [] ->
          Spells piece
            (.refersToNext (String.ofList (trimChars before)) (String.ofList (trimChars after)))
  | referredByNext {piece before after : List Char} :
      (∀ front rest, piece ≠ front ++ rightArrow ++ rest) ->
        FirstCut leftArrow piece before after ->
          EntityName (trimChars after) -> trimChars before ≠ [] ->
            Spells piece
              (.referredByNext (String.ofList (trimChars before))
                (String.ofList (trimChars after)))

def ofParts (entity : List Char) : Option (Bool × List Char) -> PathToken
  | none => .plain (String.ofList entity)
  | some (true, key) => .refersToNext (String.ofList entity) (String.ofList key)
  | some (false, key) => .referredByNext (String.ofList key) (String.ofList entity)

/-!
# Reading a piece
-/

theorem read_of_cut
    {piece entity : List Char} {key? : Option (Bool × List Char)}
    (hcut : cut piece = (entity, key?))
    (hpiece : piece ≠ [])
    (hname : EntityName entity)
    (hkeys : ∀ key ∈ key?, key.2 ≠ []) :
    read piece = .ok (ofParts entity key?) := by
  have hkey : ¬(key?.any fun key => key.2.isEmpty) = true := by
    intro hany
    cases key? with
    | none => cases hany
    | some key => exact hkeys key rfl (List.isEmpty_iff.mp hany)
  unfold read
  rw [if_neg (fun h => hpiece (List.isEmpty_iff.mp h)), hcut]
  dsimp only
  rw [if_neg (fun h => hname.nonempty (List.isEmpty_iff.mp h)), if_neg hkey,
    if_pos (List.all_eq_true.mpr hname.chars)]
  rcases key? with _ | ⟨_ | _, key⟩ <;> rfl

theorem of_read_eq_ok
    {piece entity : List Char} {key? : Option (Bool × List Char)} {token : PathToken}
    (hcut : cut piece = (entity, key?))
    (h : read piece = .ok token) :
    EntityName entity ∧ (∀ key ∈ key?, key.2 ≠ []) ∧ ofParts entity key? = token := by
  unfold read at h
  split at h
  next => cases h
  next =>
    rw [hcut] at h
    dsimp only at h
    split at h
    next => cases h
    next hentity =>
      split at h
      next => cases h
      next hkey =>
        split at h
        next hall =>
          refine ⟨⟨?_, List.all_eq_true.mp hall⟩, ?_, ?_⟩
          · intro hnil
            exact hentity (List.isEmpty_iff.mpr hnil)
          · intro key hmem hnil
            rw [Option.mem_def.mp hmem] at hkey
            exact hkey (List.isEmpty_iff.mpr hnil)
          · rcases key? with _ | ⟨_ | _, key⟩
            all_goals
              cases h
              rfl
        next => cases h

/-!
# Cutting a piece
-/

theorem cut_of_right
    {piece before after : List Char}
    (h : FirstCut rightArrow piece before after) :
    cut piece = (trimChars before, some (true, trimChars after)) := by
  rw [cut, cutFirst?_eq_some_iff.mpr h]

theorem cut_of_left
    {piece before after : List Char}
    (hno : ∀ front rest, piece ≠ front ++ rightArrow ++ rest)
    (h : FirstCut leftArrow piece before after) :
    cut piece = (trimChars after, some (false, trimChars before)) := by
  rw [cut, cutFirst?_eq_none_iff.mpr hno]
  dsimp only
  rw [cutFirst?_eq_some_iff.mpr h]

theorem cut_of_no_arrow
    {piece : List Char}
    (hright : ∀ front rest, piece ≠ front ++ rightArrow ++ rest)
    (hleft : ∀ front rest, piece ≠ front ++ leftArrow ++ rest) :
    cut piece = (piece, none) := by
  rw [cut, cutFirst?_eq_none_iff.mpr hright]
  dsimp only
  rw [cutFirst?_eq_none_iff.mpr hleft]

theorem EntityName.cut_eq
    {cs : List Char}
    (h : EntityName cs) :
    cut cs = (cs, none) := by
  have hclear : ∀ mark : List Char, '-' ∈ mark -> ∀ front rest, cs ≠ front ++ mark ++ rest := by
    intro mark hmark front rest hcs
    have hin : '-' ∈ cs := by
      rw [hcs]
      simp [hmark]
    have hchar := h.chars '-' hin
    revert hchar
    decide
  exact cut_of_no_arrow (hclear rightArrow (by decide)) (hclear leftArrow (by decide))

theorem ne_nil_of_firstCut
    {mark piece before after : List Char}
    (h : FirstCut mark piece before after)
    (hmark : mark ≠ []) :
    piece ≠ [] := by
  rw [h.cut]
  simp [hmark]

theorem read_eq_ok_iff
    {piece : List Char} {token : PathToken} :
    read piece = .ok token ↔ Spells piece token := by
  constructor
  · intro h
    cases hright : cutFirst? rightArrow piece with
    | some parts =>
        have hfirst := cutFirst?_eq_some_iff.mp hright
        rcases of_read_eq_ok (cut_of_right hfirst) h with ⟨hname, hkeys, rfl⟩
        exact .refersToNext hfirst hname (hkeys _ rfl)
    | none =>
        have hno := cutFirst?_eq_none_iff.mp hright
        cases hleft : cutFirst? leftArrow piece with
        | some parts =>
            have hfirst := cutFirst?_eq_some_iff.mp hleft
            rcases of_read_eq_ok (cut_of_left hno hfirst) h with ⟨hname, hkeys, rfl⟩
            exact .referredByNext hno hfirst hname (hkeys _ rfl)
        | none =>
            have hcut := cut_of_no_arrow hno (cutFirst?_eq_none_iff.mp hleft)
            rcases of_read_eq_ok hcut h with ⟨hname, _, rfl⟩
            exact .plain hname
  · intro h
    cases h with
    | plain hname =>
        refine read_of_cut hname.cut_eq hname.nonempty hname ?_
        intro key hkey
        cases hkey
    | refersToNext hfirst hname hkey =>
        have hpiece := ne_nil_of_firstCut hfirst (by decide)
        refine read_of_cut (cut_of_right hfirst) hpiece hname ?_
        rintro key ⟨rfl⟩
        exact hkey
    | referredByNext hno hfirst hname hkey =>
        have hpiece := ne_nil_of_firstCut hfirst (by decide)
        refine read_of_cut (cut_of_left hno hfirst) hpiece hname ?_
        rintro key ⟨rfl⟩
        exact hkey

example : read "key<-user->role".toList = .error (.badEntity "key<-user") := by
  decide +kernel

def relation (naming : Naming) (left right : String) : PathToken -> Relation
  | .plain _ =>
      { link := .bridge (naming.bridgeKey left) (naming.bridgeKey right)
          (naming.bridgeTable left right)
        localKey := naming.bridgeKey left
        foreignKey := naming.bridgeKey right
        table := naming.bridgeTable left right }
  | .refersToNext _ key =>
      { link := .leftKey (naming.column key)
        localKey := identityColumn
        foreignKey := naming.column key
        table := naming.domainTable left }
  | .referredByNext key _ =>
      { link := .rightKey (naming.column key)
        localKey := naming.column key
        foreignKey := identityColumn
        table := naming.domainTable right }

end PathToken

namespace Path

/-!
# Tokens of a path
-/

def pieces (raw : String) : List (List Char) :=
  (split ',' raw.toList).map trimChars

structure Spelled (raw : String) (tokens : List PathToken) : Prop where
  spells : List.Forall₂ PathToken.Spells (pieces raw) tokens
  last : ∀ token ∈ tokens.getLast?, token.isPlain = true

def hopsOf (naming : Naming) (token : PathToken) : List PathToken -> List Hop
  | [] => []
  | next :: tokens =>
      ⟨Link.ofToken naming token (Stop.ofToken naming token) (Stop.ofToken naming next),
        Stop.ofToken naming next⟩ :: hopsOf naming next tokens

variable {naming : Naming} {raw : String} {path : Path}

/-!
# Commas
-/

theorem two_le_length_pieces_iff :
    2 ≤ (pieces raw).length ↔ ',' ∈ raw.toList := by
  have hjoin := joinChars_split ',' raw.toList
  rw [pieces, List.length_map]
  rcases hsplit : split ',' raw.toList with _ | ⟨piece, _ | ⟨second, rest⟩⟩
  · exact absurd hsplit (split_ne_nil ',' raw.toList)
  · have hclear : ',' ∉ piece := by
      intro hin
      have hmem : piece ∈ splitWhere (· == ',') raw.toList := by
        rw [← split, hsplit]
        exact List.mem_singleton.mpr rfl
      have hmark := clear_of_mem_splitWhere hmem hin
      simp at hmark
    rw [hsplit, joinChars] at hjoin
    rw [← hjoin]
    simp [hclear]
  · rw [hsplit, joinChars] at hjoin
    rw [← hjoin]
    simp

theorem parse_of_no_comma
    (naming : Naming)
    (h : ',' ∉ raw.toList) :
    parse naming raw = .error (.shortPath raw) := by
  have hlength : ¬2 ≤ (pieces raw).length := fun hle => h (two_le_length_pieces_iff.mp hle)
  unfold pieces at hlength
  unfold parse
  split
  next piece second rest hpieces =>
    rw [hpieces] at hlength
    exact absurd (by simp) hlength
  next => rfl

theorem parse_of_pieces
    {piece second : List Char} {rest : List (List Char)}
    (naming : Naming)
    (h : pieces raw = piece :: second :: rest) :
    parse naming raw =
      match readPieces naming raw piece second rest with
      | .ok path => .ok path
      | .error reason => .error (.path raw reason) := by
  unfold pieces at h
  unfold parse
  split
  next first other more hpieces =>
    rw [h] at hpieces
    cases hpieces
    rfl
  next hshort => exact absurd h (hshort piece second rest)

theorem exists_pieces
    (h : ',' ∈ raw.toList) :
    ∃ piece second rest, pieces raw = piece :: second :: rest := by
  have hlength := two_le_length_pieces_iff.mpr h
  rcases hpieces : pieces raw with _ | ⟨piece, _ | ⟨second, rest⟩⟩
  · simp [hpieces] at hlength
  · simp [hpieces] at hlength
  · exact ⟨piece, second, rest, rfl⟩

theorem reason_of_comma
    {fault : Fault}
    (hcomma : ',' ∈ raw.toList)
    (h : parse naming raw = .error fault) :
    ∃ reason, fault = .path raw reason := by
  rcases exists_pieces hcomma with ⟨piece, second, rest, hpieces⟩
  rw [parse_of_pieces naming hpieces] at h
  split at h
  next => cases h
  next reason _ =>
    cases h
    exact ⟨reason, rfl⟩

/-!
# Reading all tokens
-/

theorem bind_eq_ok_iff
    {ε α β : Type} {step : Except ε α} {next : α -> Except ε β} {result : β} :
    (step >>= next) = .ok result ↔ ∃ value, step = .ok value ∧ next value = .ok result := by
  cases step with
  | error reason =>
      constructor
      · intro h
        cases h
      · rintro ⟨value, hstep, _⟩
        cases hstep
  | ok value =>
      constructor
      · intro h
        exact ⟨value, rfl, h⟩
      · rintro ⟨other, hstep, hnext⟩
        cases hstep
        exact hnext

theorem readHops_cons_eq_ok_iff
    {token : PathToken} {stop : Stop} {piece : List Char} {rest : List (List Char)}
    {hops : List Hop} :
    readHops naming token stop (piece :: rest) = .ok hops ↔
      ∃ next later, PathToken.Spells piece next ∧
        readHops naming next (Stop.ofToken naming next) rest = .ok later ∧
          ⟨Link.ofToken naming token stop (Stop.ofToken naming next),
            Stop.ofToken naming next⟩ :: later = hops := by
  rw [readHops, bind_eq_ok_iff]
  constructor
  · rintro ⟨next, hread, hrest⟩
    rcases bind_eq_ok_iff.mp hrest with ⟨later, hlater, hhops⟩
    cases hhops
    exact ⟨next, later, PathToken.read_eq_ok_iff.mp hread, hlater, rfl⟩
  · rintro ⟨next, later, hspells, hlater, rfl⟩
    refine ⟨next, PathToken.read_eq_ok_iff.mpr hspells, ?_⟩
    exact bind_eq_ok_iff.mpr ⟨later, hlater, rfl⟩

theorem readHops_eq_ok_iff
    {token : PathToken} {rest : List (List Char)} {hops : List Hop} :
    readHops naming token (Stop.ofToken naming token) rest = .ok hops ↔
      ∃ tokens, List.Forall₂ PathToken.Spells rest tokens ∧
        (∀ last ∈ (token :: tokens).getLast?, last.isPlain = true) ∧
          hopsOf naming token tokens = hops := by
  induction rest generalizing token hops with
  | nil =>
      rw [readHops]
      constructor
      · intro h
        split at h
        next hplain =>
          cases h
          refine ⟨[], .nil, ?_, rfl⟩
          rintro last ⟨rfl⟩
          exact hplain
        next => cases h
      · rintro ⟨tokens, hspells, hlast, rfl⟩
        cases hspells
        rw [if_pos (hlast token rfl)]
        rfl
  | cons piece rest ih =>
      rw [readHops_cons_eq_ok_iff]
      constructor
      · rintro ⟨next, later, hpiece, hlater, rfl⟩
        rcases ih.mp hlater with ⟨tokens, hspells, hlast, rfl⟩
        refine ⟨next :: tokens, .cons hpiece hspells, ?_, rfl⟩
        rw [List.getLast?_cons_cons]
        exact hlast
      · rintro ⟨tokens, hspells, hlast, rfl⟩
        cases hspells with
        | cons hpiece hspells =>
            rw [List.getLast?_cons_cons] at hlast
            exact ⟨_, _, hpiece, ih.mpr ⟨_, hspells, hlast, rfl⟩, rfl⟩

theorem readPieces_eq_ok_iff
    {piece second : List Char} {rest : List (List Char)} :
    readPieces naming raw piece second rest = .ok path ↔
      ∃ token, PathToken.Spells piece token ∧ path.raw = raw ∧
        path.root = Stop.ofToken naming token ∧
          readHops naming token (Stop.ofToken naming token) (second :: rest) = .ok path.hops := by
  rw [readPieces, bind_eq_ok_iff]
  constructor
  · rintro ⟨token, hread, hrest⟩
    rcases bind_eq_ok_iff.mp hrest with ⟨next, hnext, hrest⟩
    rcases bind_eq_ok_iff.mp hrest with ⟨later, hlater, hpath⟩
    cases hpath
    refine ⟨token, PathToken.read_eq_ok_iff.mp hread, rfl, rfl, ?_⟩
    rw [readHops_cons_eq_ok_iff]
    exact ⟨next, later, PathToken.read_eq_ok_iff.mp hnext, hlater, rfl⟩
  · rintro ⟨token, hspells, hraw, hroot, hhops⟩
    rcases readHops_cons_eq_ok_iff.mp hhops with ⟨next, later, hnext, hlater, heq⟩
    refine ⟨token, PathToken.read_eq_ok_iff.mpr hspells, bind_eq_ok_iff.mpr ?_⟩
    refine ⟨next, PathToken.read_eq_ok_iff.mpr hnext, bind_eq_ok_iff.mpr ⟨later, hlater, ?_⟩⟩
    rcases path with ⟨raw', root, first, rest'⟩
    cases hraw
    cases hroot
    cases heq
    rfl

theorem parse_eq_ok_iff
    (hcomma : ',' ∈ raw.toList) :
    parse naming raw = .ok path ↔
      ∃ token tokens, Spelled raw (token :: tokens) ∧ path.raw = raw ∧
        path.root = Stop.ofToken naming token ∧ path.hops = hopsOf naming token tokens := by
  rcases exists_pieces hcomma with ⟨piece, second, rest, hpieces⟩
  have hok : parse naming raw = .ok path ↔
      readPieces naming raw piece second rest = .ok path := by
    rw [parse_of_pieces naming hpieces]
    cases readPieces naming raw piece second rest with
    | error reason =>
        constructor <;> intro h <;> cases h
    | ok found =>
        show (Except.ok found : Except Fault Path) = .ok path ↔ _
        rw [Except.ok.injEq, Except.ok.injEq]
  rw [hok, readPieces_eq_ok_iff]
  constructor
  · rintro ⟨token, hspells, hraw, hroot, hhops⟩
    rcases readHops_eq_ok_iff.mp hhops with ⟨tokens, hlater, hlast, heq⟩
    refine ⟨token, tokens, ⟨?_, hlast⟩, hraw, hroot, heq.symm⟩
    rw [hpieces]
    exact .cons hspells hlater
  · rintro ⟨token, tokens, hspelled, hraw, hroot, hhops⟩
    have hspells := hspelled.spells
    rw [hpieces] at hspells
    cases hspells with
    | cons hpiece hlater =>
        refine ⟨token, hpiece, hraw, hroot, ?_⟩
        exact readHops_eq_ok_iff.mpr ⟨tokens, hlater, hspelled.last, hhops.symm⟩

theorem exists_parse_iff
    (naming : Naming)
    (hcomma : ',' ∈ raw.toList) :
    (∃ path, parse naming raw = .ok path) ↔ ∃ tokens, Spelled raw tokens := by
  constructor
  · rintro ⟨path, hpath⟩
    rcases (parse_eq_ok_iff hcomma).mp hpath with ⟨token, tokens, hspelled, _⟩
    exact ⟨token :: tokens, hspelled⟩
  · rintro ⟨tokens, hspelled⟩
    -- two pieces at least spell two tokens, which make a root and a first hop
    rcases exists_pieces hcomma with ⟨piece, second, rest, hpieces⟩
    have hspells := hspelled.spells
    rw [hpieces] at hspells
    cases hspells with
    | @cons _ token _ _ _ hlater =>
        cases hlater with
        | @cons _ next _ tokens _ _ =>
            let root := Stop.ofToken naming token
            let stop := Stop.ofToken naming next
            refine ⟨⟨raw, root, ⟨Link.ofToken naming token root stop, stop⟩,
              hopsOf naming next tokens⟩, (parse_eq_ok_iff hcomma).mpr ?_⟩
            exact ⟨token, next :: tokens, hspelled, rfl, rfl, rfl⟩

end Path
end Criteria
