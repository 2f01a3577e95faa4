import ClassExpansion.Proofs.MetadataReading

set_option autoImplicit false

/- What the code of a directory stands for in the running program, and that it is the directory it
was written from. -/
namespace ClassExpansion

namespace FieldRole

def all : List FieldRole := [standard, propertyShadow, initVar, classVar]

/-- The role that a path names. -/
def denoted? (tokens : Tokens) : Option FieldRole :=
  match Tokens.path tokens with
  | (["inity", "FieldRole", variant], []) => all.find? fun role => role.variantName == variant
  | _ => none

theorem denoted?_tokens (role : FieldRole) : denoted? role.tokens = some role := by
  cases role <;> rfl

end FieldRole

namespace DefaultKind

def denoted? (tokens : Tokens) : Option DefaultKind :=
  match Tokens.path tokens with
  | (["inity", "DefaultKind", variant], []) => ofName? variant
  | _ => none

theorem denoted?_tokens (kind : DefaultKind) : denoted? kind.tokens = some kind := by
  cases kind <;> rfl

end DefaultKind

namespace FieldInfo

/-- The entry as it is written, which is as it is but for numbers that nothing is read as. -/
def asWritten (info : FieldInfo) : FieldInfo :=
  { info with metadata := info.metadata.map MetaEntry.asWritten }

theorem asWritten_of_isReadable (info : FieldInfo)
    (readable : ∀ entry ∈ info.metadata, entry.value.IsReadable) : info.asWritten = info := by
  have same : info.metadata.map MetaEntry.asWritten = info.metadata := by
    refine (List.map_congr_left fun entry member => ?_).trans (List.map_id _)
    rw [MetaEntry.asWritten, entry.value.asWritten_of_isReadable (readable entry member)]
    rfl
  rw [asWritten, same]

/-- The entry after the calls that complete it. -/
def completed? (info : FieldInfo) : Tokens → Option FieldInfo
  | [] => some info
  | .punct '.' _ :: .ident "with_storage" :: .group .paren [text] :: rest =>
    text.text?.bind fun storage => completed? { info with storage? := some storage } rest
  | .punct '.' _ :: .ident "with_metadata" ::
      .group .paren [.punct '&' _, .group .bracket entries] :: rest =>
    ((Tokens.listed entries).mapM MetaEntry.denoted?).bind fun metadata =>
      completed? { info with metadata := metadata } rest
  | _ => none

/-- The entry that a call of its constructor gives. -/
def denoted? (tokens : Tokens) : Option FieldInfo :=
  match Tokens.path tokens with
  | (["inity", "FieldInfo", "new"], .group .paren arguments :: rest) =>
    match Tokens.listed arguments with
    | [[name], [typeText], role, default, [declaredIn]] => do
      let made : FieldInfo := {
        name := ← name.text?
        typeText := ← typeText.text?
        role := ← FieldRole.denoted? role
        default := ← DefaultKind.denoted? default
        declaredIn := ← declaredIn.text?
        storage? := none
        metadata := [] }
      made.completed? rest
    | _ => none
  | _ => none

/-- The arguments of the constructor call of an entry. -/
def arguments (info : FieldInfo) : List Tokens := [
  [Code.quoted info.name], [Code.quoted info.typeText], info.role.tokens, info.default.tokens,
  [Code.quoted info.declaredIn]]

theorem listed_arguments (info : FieldInfo) :
    Tokens.listed (commaSeparated info.arguments) = info.arguments := by
  have quoted (text : String) :
      [Code.quoted text] ≠ [] ∧ Tokens.Without ',' [Code.quoted text] := by
    refine ⟨List.cons_ne_nil _ _, ?_⟩
    intro t isLiteral
    rw [List.mem_singleton.mp isLiteral]
    rfl
  have rooted (first : String) (more : List String) : Name.rooted (first :: more) ≠ [] ∧
      Tokens.Without ',' (Name.rooted (first :: more)) :=
    ⟨List.cons_ne_nil _ _, Tokens.without_rooted ',' (by decide) _⟩
  apply Tokens.listed_commaSeparated
  intro part member
  simp only [arguments, List.mem_cons, List.not_mem_nil, or_false] at member
  rcases member with rfl | rfl | rfl | rfl | rfl
  · exact quoted info.name
  · exact quoted info.typeText
  · exact rooted _ _
  · exact rooted _ _
  · exact quoted info.declaredIn

theorem metadataTokens_cases (info : FieldInfo) (tokens : Tokens)
    (written : info.metadataTokens = .ok tokens) :
    (tokens = [] ∧ info.metadata = []) ∨
      ∃ entries, info.metadata.mapM MetaEntry.tokens = .ok entries ∧ tokens =
        chained "with_metadata" (Code.reference [.bracket (commaSeparated entries)]) := by
  unfold metadataTokens at written
  split at written
  · next none => exact .inl ⟨(Except.ok.inj written).symm, List.isEmpty_iff.mp none⟩
  · obtain ⟨entries, spelled, given⟩ := (Attempt.bind_eq_ok_iff _ _ _).mp written
    exact .inr ⟨entries, spelled, (Except.ok.inj given).symm⟩

theorem completed?_metadata (info made : FieldInfo) (metadata : Tokens)
    (written : info.metadataTokens = .ok metadata) (fresh : made.metadata = []) :
    completed? made metadata =
      some { made with metadata := info.metadata.map MetaEntry.asWritten } := by
  rcases info.metadataTokens_cases metadata written with ⟨rfl, none⟩ | ⟨entries, spelled, rfl⟩
  · rw [none, List.map_nil, ← fresh]
    rfl
  · have shape : chained "with_metadata" (Code.reference [.bracket (commaSeparated entries)]) =
        [.punct '.' false, .ident "with_metadata",
          .group .paren [.punct '&' false, .group .bracket (commaSeparated entries)]] := rfl
    rw [shape, completed?, MetaEntry.mapM_denoted? _ _ spelled]
    rfl

theorem completed?_tokens (info : FieldInfo) (metadata : Tokens)
    (written : info.metadataTokens = .ok metadata) :
    completed? { info with storage? := none, metadata := [] } (info.storageTokens ++ metadata) =
      some info.asWritten := by
  unfold storageTokens
  cases stored : info.storage? with
  | none =>
    rw [List.nil_append, info.completed?_metadata _ metadata written rfl, asWritten, stored]
  | some storage =>
    have step : chained "with_storage" [Code.quoted storage] ++ metadata =
        .punct '.' false :: .ident "with_storage" :: .group .paren [Code.quoted storage] ::
          metadata := rfl
    rw [step, completed?, Token.text?_quoted, Option.bind_some,
      info.completed?_metadata _ metadata written rfl, asWritten, stored]

theorem exists_metadata_of_tokens (info : FieldInfo) (tokens : Tokens)
    (written : info.tokens = .ok tokens) :
    ∃ metadata, info.metadataTokens = .ok metadata ∧
      tokens = Name.rooted ["inity", "FieldInfo", "new"] ++
        (.group .paren (commaSeparated info.arguments) :: (info.storageTokens ++ metadata)) := by
  unfold FieldInfo.tokens at written
  obtain ⟨metadata, spelled, given⟩ := (Attempt.bind_eq_ok_iff _ _ _).mp written
  refine ⟨metadata, spelled, ?_⟩
  rw [← Except.ok.inj given]
  simp [arguments, Token.paren]

theorem denoted?_tokens (info : FieldInfo) (tokens : Tokens) (written : info.tokens = .ok tokens) :
    denoted? tokens = some info.asWritten := by
  obtain ⟨metadata, spelled, shape⟩ := info.exists_metadata_of_tokens tokens written
  have path := Tokens.path_rooted ["inity", "FieldInfo", "new"]
    (.group .paren (commaSeparated info.arguments) :: (info.storageTokens ++ metadata)) rfl
  rw [shape, denoted?, path]
  simp only [listed_arguments]
  simp only [arguments, Token.text?_quoted, FieldRole.denoted?_tokens,
    DefaultKind.denoted?_tokens, Option.bind_eq_bind, Option.bind_some]
  exact info.completed?_tokens metadata spelled

/-- Entries stand next to each other, each as a part of its own. -/
theorem good_tokens (info : FieldInfo) (tokens : Tokens) (written : info.tokens = .ok tokens) :
    tokens ≠ [] ∧ Tokens.Without ',' tokens := by
  obtain ⟨metadata, spelled, shape⟩ := info.exists_metadata_of_tokens tokens written
  have call (method : String) (argument : Tokens) :
      Tokens.Without ',' (chained method argument) := by
    simp [Tokens.Without, chained, Token.op, Token.operator, Token.isPunct, Token.paren]
  have storage : Tokens.Without ',' info.storageTokens := by
    unfold storageTokens
    split
    · exact call _ _
    · exact fun t inNil => absurd inNil List.not_mem_nil
  have last : Tokens.Without ',' metadata := by
    rcases info.metadataTokens_cases metadata spelled with ⟨rfl, _⟩ | ⟨entries, _, rfl⟩
    · exact fun t inNil => absurd inNil List.not_mem_nil
    · exact call _ _
  rw [shape]
  refine ⟨List.cons_ne_nil _ _, Tokens.without_append _ _ _ ?_ ?_⟩
  · exact Tokens.without_rooted ',' (by decide) _
  · exact Tokens.without_cons _ _ _ rfl (Tokens.without_append _ _ _ storage last)

end FieldInfo

namespace ClassDirectory

/-- The directory that an implementation holds. -/
def denoted? : Tokens → Option ClassDirectory
  | .ident "impl" :: tokens =>
    match Tokens.path tokens with
    | (["inity", "Inity"], [.ident "for", .ident _, .group .brace items]) =>
      match Tokens.constant? "NAME" items, Tokens.constant? "FIELDS" items with
      | some [name], some [.punct '&' _, .group .bracket entries] => do
        return ⟨← name.text?, ← (Tokens.listed entries).mapM FieldInfo.denoted?⟩
      | _, _ => none
    | _ => none
  | _ => none

theorem denoted?_tokens (directory : ClassDirectory) (tokens : Tokens)
    (written : directory.tokens = .ok tokens) :
    denoted? tokens = some ⟨directory.name, directory.fields.map FieldInfo.asWritten⟩ := by
  unfold ClassDirectory.tokens at written
  obtain ⟨entries, spelled, given⟩ := (Attempt.bind_eq_ok_iff _ _ _).mp written
  have read := Tokens.mapM_listed_of_mapM FieldInfo.tokens FieldInfo.denoted? FieldInfo.asWritten
    FieldInfo.good_tokens FieldInfo.denoted?_tokens directory.fields entries spelled
  let name := Code.constant "NAME" (Code.staticReference [.ident "str"])
    [Code.quoted directory.name]
  let fields := Code.constant "FIELDS"
    (Code.staticReference [.bracket (Name.rooted ["inity", "FieldInfo"])])
    (Code.reference [.bracket (commaSeparated entries)])
  have nameFirst (wanted : String) : Tokens.constant? wanted (name ++ fields) =
      if "NAME" = wanted then some [Code.quoted directory.name]
      else Tokens.constant? wanted fields :=
    Tokens.constant?_cons wanted "NAME" _ _ fields (Tokens.without_of_all _ _ rfl)
      (Tokens.without_of_all _ _ rfl) (Tokens.without_of_all _ _ rfl)
  have fieldsAlone : Tokens.constant? "FIELDS" (fields ++ []) =
      some [.punct '&' false, .group .bracket (commaSeparated entries)] :=
    Tokens.constant?_cons "FIELDS" "FIELDS" _ _ [] (Tokens.without_of_all _ _ rfl)
      (Tokens.without_of_all _ _ rfl) (Tokens.without_of_all _ _ rfl)
  have nameRead : Tokens.constant? "NAME" (name ++ fields) = some [Code.quoted directory.name] :=
    nameFirst "NAME"
  have fieldsRead : Tokens.constant? "FIELDS" (name ++ fields) =
      some [.punct '&' false, .group .bracket (commaSeparated entries)] := by
    rw [List.append_nil] at fieldsAlone
    rw [nameFirst, if_neg (by decide), fieldsAlone]
  have shape : tokens = .ident "impl" :: (Name.rooted ["inity", "Inity"] ++
      [.ident "for", .ident directory.name, .group .brace (name ++ fields)]) :=
    (Except.ok.inj given).symm
  rw [shape, denoted?, Tokens.path_rooted _ _ rfl]
  simp only [nameRead, fieldsRead, read, Token.text?_quoted, Option.bind_eq_bind,
    Option.bind_some]
  rfl

end ClassDirectory

end ClassExpansion
