/-
# ListExpansion.Proofs.Config.Json -- every spelling of the directory's settings

What is written of directory settings reads as the same settings (`ofJson?_toJson`).  An object
may be spelled in other ways: its members may come in another order or under others of their
names, members that are not known may be there, and a `null` may be left out where a value is
optional (`Json.Respelled`, of any shape and at any depth).  A field may not be given twice
(`Json.Repeats`).

A reader that keeps to its shape (`Json.Faithful`) reads all spellings alike and refuses
repetitions.  Readers of values keep to theirs, and a reader of a record does if it takes its
fields one after the other (`Json.Obtains`), each by a reader that does.
-/
import ListExpansion.Config.Json
import ListExpansion.Config.Settings
import ListExpansion.Proofs.Config.Reading
import Mathlib.Logic.Relation

namespace ListExpansion

set_option autoImplicit false

namespace Config.Json

open Given (Apart only? valuesUnder)

/-! ## Spellings -/

/-- One change of spelling of a value that has a shape.  A record that is written as a list has
only one. -/
inductive Respelled : Shape → Json → Json → Prop
  | permuted {record : String} {known : List (List String × Shape)}
      {members members' : List (String × Json)} (same : members.Perm members') :
      Respelled (.record record known) (.object members) (.object members')
  | renamed {record : String} {known : List (List String × Shape)} {names : List String}
      {shape : Shape} {old new : String} (declared : (names, shape) ∈ known)
      (was : old ∈ names) (is : new ∈ names) (before : List (String × Json)) (value : Json)
      (after : List (String × Json)) :
      Respelled (.record record known) (.object (before ++ (old, value) :: after))
        (.object (before ++ (new, value) :: after))
  | added {record : String} {known : List (List String × Shape)} {name : String}
      (unknown : ∀ entry ∈ known, name ∉ entry.1) (before : List (String × Json)) (value : Json)
      (after : List (String × Json)) :
      Respelled (.record record known) (.object (before ++ after))
        (.object (before ++ (name, value) :: after))
  | dropped {record : String} {known : List (List String × Shape)} {names : List String}
      {inner : Shape} {name : String} (declared : (names, .optional inner) ∈ known)
      (named : name ∈ names) (before after : List (String × Json)) :
      Respelled (.record record known) (.object (before ++ (name, .null) :: after))
        (.object (before ++ after))
  /-- The value of a known field is spelled in another way. -/
  | member {record : String} {known : List (List String × Shape)} {names : List String}
      {shape : Shape} {name : String} {value value' : Json} (declared : (names, shape) ∈ known)
      (named : name ∈ names) (inside : Respelled shape value value')
      (before after : List (String × Json)) :
      Respelled (.record record known) (.object (before ++ (name, value) :: after))
        (.object (before ++ (name, value') :: after))
  /-- The value of an unknown field is any other. -/
  | ignored {record : String} {known : List (List String × Shape)} {name : String}
      (unknown : ∀ entry ∈ known, name ∉ entry.1) (before : List (String × Json))
      (value value' : Json) (after : List (String × Json)) :
      Respelled (.record record known) (.object (before ++ (name, value) :: after))
        (.object (before ++ (name, value') :: after))
  | present {inner : Shape} {value value' : Json} (inside : Respelled inner value value') :
      Respelled (.optional inner) value value'

/-- Some object in a value of this shape gives a field twice, under one name or two. -/
inductive Repeats : Shape → Json → Prop
  | here {record : String} {known : List (List String × Shape)} {names : List String}
      {shape : Shape} {first second : String} (declared : (names, shape) ∈ known)
      (once : first ∈ names) (twice : second ∈ names) (before : List (String × Json))
      (value : Json) (between : List (String × Json)) (value' : Json)
      (after : List (String × Json)) :
      Repeats (.record record known)
        (.object (before ++ (first, value) :: (between ++ (second, value') :: after)))
  | member {record : String} {known : List (List String × Shape)} {names : List String}
      {shape : Shape} {name : String} {value : Json} (declared : (names, shape) ∈ known)
      (named : name ∈ names) (inside : Repeats shape value) (before after : List (String × Json)) :
      Repeats (.record record known) (.object (before ++ (name, value) :: after))
  | present {inner : Shape} {value : Json} (inside : Repeats inner value) :
      Repeats (.optional inner) value

theorem Respelled.optional? {shape : Shape} {value value' : Json}
    (respelled : Respelled shape value value') :
    optional? value = some (some value) ∧ optional? value' = some (some value') := by
  induction respelled with
  | present inside ih => exact ih
  | _ => exact ⟨rfl, rfl⟩

theorem Repeats.optional? {shape : Shape} {value : Json} (repeats : Repeats shape value) :
    optional? value = some (some value) := by
  induction repeats with
  | present inside ih => exact ih
  | _ => rfl

/-! ## What becomes of a field -/

/-- What is given for a field before and after a change of spelling. -/
inductive Kept (shape : Shape) : (given given' : Option (Option Json)) → Prop
  | same (given : Option (Option Json)) : Kept shape given given
  | spoilt (given' : Option (Option Json)) : Kept shape none given'
  | respelled {value value' : Json} (inside : Respelled shape value value') :
      Kept shape (some (some value)) (some (some value'))
  | dropped {inner : Shape} (optional : shape = .optional inner) :
      Kept shape (some (some .null)) (some none)

/-- A field that is given twice, or whose value repeats one. -/
inductive Broken (shape : Shape) : (given : Option (Option Json)) → Prop
  | spoilt : Broken shape none
  | inside {value : Json} (repeats : Repeats shape value) : Broken shape (some (some value))

/-- Among other values of the field. -/
theorem Kept.between {shape : Shape} {value : Json} (early now' late : List Json)
    (kept : Kept shape (some (some value)) (only? now')) :
    Kept shape (only? (early ++ value :: late)) (only? (early ++ (now' ++ late))) := by
  obtain ⟨rfl, rfl⟩ | spoilt := Given.only?_middle early late
  · rw [List.append_nil]
    exact kept
  · rw [spoilt]
    exact .spoilt _

theorem Broken.between {shape : Shape} {value : Json} (early late : List Json)
    (repeats : Repeats shape value) : Broken shape (only? (early ++ value :: late)) := by
  obtain ⟨rfl, rfl⟩ | spoilt := Given.only?_middle early late
  · exact .inside repeats
  · rw [spoilt]
    exact .spoilt

section Fields

variable {known : List (List String × Shape)} {record : String} {json json' : Json}

/-- A change of spelling changes nothing about a field but the spelling of its value. -/
theorem Respelled.kept (apart : Apart known)
    (respelled : Respelled (.record record known) json json') :
    ∃ members members', json = .object members ∧ json' = .object members' ∧
      ∀ entry ∈ known,
        Kept entry.2 (only? (valuesUnder entry.1 members))
          (only? (valuesUnder entry.1 members')) := by
  cases respelled with
  | permuted same =>
      refine ⟨_, _, rfl, rfl, fun entry there => ?_⟩
      rw [Given.only?_perm (Given.valuesUnder_perm same)]
      exact .same _
  | @renamed _ _ names shape old new declared was is before value after =>
      refine ⟨_, _, rfl, rfl, fun entry there => ?_⟩
      simp only [Given.valuesUnder_append]
      by_cases mine : old ∈ entry.1
      · obtain rfl := apart.eq_of_mem there declared mine was
        rw [Given.valuesUnder_cons_of_mem was, Given.valuesUnder_cons_of_mem is]
        exact .same _
      · have other : new ∉ entry.1 := fun is' =>
          mine (apart.eq_of_mem there declared is' is ▸ was)
        rw [Given.valuesUnder_cons_of_not_mem mine, Given.valuesUnder_cons_of_not_mem other]
        exact .same _
  | added unknown before value after =>
      refine ⟨_, _, rfl, rfl, fun entry there => ?_⟩
      simp only [Given.valuesUnder_append, Given.valuesUnder_cons_of_not_mem (unknown entry there)]
      exact .same _
  | @dropped _ _ names inner name declared named before after =>
      refine ⟨_, _, rfl, rfl, fun entry there => ?_⟩
      simp only [Given.valuesUnder_append]
      by_cases mine : name ∈ entry.1
      · obtain rfl := apart.eq_of_mem there declared mine named
        rw [Given.valuesUnder_cons_of_mem named]
        exact .between _ [] _ (.dropped rfl)
      · rw [Given.valuesUnder_cons_of_not_mem mine]
        exact .same _
  | @member _ _ names shape name value value' declared named inside before after =>
      refine ⟨_, _, rfl, rfl, fun entry there => ?_⟩
      simp only [Given.valuesUnder_append]
      by_cases mine : name ∈ entry.1
      · obtain rfl := apart.eq_of_mem there declared mine named
        rw [Given.valuesUnder_cons_of_mem named, Given.valuesUnder_cons_of_mem named]
        exact .between _ [value'] _ (.respelled inside)
      · rw [Given.valuesUnder_cons_of_not_mem mine, Given.valuesUnder_cons_of_not_mem mine]
        exact .same _
  | ignored unknown before value value' after =>
      refine ⟨_, _, rfl, rfl, fun entry there => ?_⟩
      simp only [Given.valuesUnder_append, Given.valuesUnder_cons_of_not_mem (unknown entry there)]
      exact .same _

theorem Repeats.broken (repeats : Repeats (.record record known) json) :
    ∃ members, json = .object members ∧
      ∃ entry ∈ known, Broken entry.2 (only? (valuesUnder entry.1 members)) := by
  cases repeats with
  | here declared once twice before value between value' after =>
      refine ⟨_, rfl, _, declared, ?_⟩
      simp only [Given.valuesUnder_append, Given.valuesUnder_cons_of_mem once,
        Given.valuesUnder_cons_of_mem twice, Given.only?_two]
      exact .spoilt
  | member declared named inside before after =>
      refine ⟨_, rfl, _, declared, ?_⟩
      simp only [Given.valuesUnder_append, Given.valuesUnder_cons_of_mem named]
      exact .between _ _ inside

end Fields

/-! ## Readers that keep to a shape -/

/-- Reads all spellings of a value alike, and none that gives a field twice. -/
structure Faithful {α : Type} (shape : Shape) (read : Json → Option α) : Prop where
  respelled {json json' : Json} {result : α} (respelled : Respelled shape json json')
    (reads : read json = some result) : read json' = some result
  repeats {json : Json} (repeats : Repeats shape json) : read json = none

/-- Takes the fields in `covered`, and takes them as they are given. -/
structure Obtains {α : Type} (covered : List (List String × Shape))
    (get : Given Json → Option α) : Prop where
  kept {members members' : List (String × Json)} {result : α}
    (kept : ∀ entry ∈ covered,
      Kept entry.2 (only? (valuesUnder entry.1 members)) (only? (valuesUnder entry.1 members')))
    (obtained : get (.named members) = some result) : get (.named members') = some result
  sound {members : List (String × Json)} {result : α}
    (obtained : get (.named members) = some result) :
    ∀ entry ∈ covered, ¬ Broken entry.2 (only? (valuesUnder entry.1 members))

section Readers

variable {α β : Type} {shape : Shape} {read : Json → Option α} {label : String}
  {known rest : List (List String × Shape)}

theorem Faithful.text : Faithful .text text? := ⟨nofun, nofun⟩

theorem Faithful.seconds : Faithful .seconds seconds? := ⟨nofun, nofun⟩

theorem Faithful.optional (faithful : Faithful shape read) :
    Faithful (.optional shape) (reading.option read) where
  respelled := by
    intro json json' result respelled reads
    cases respelled with
    | present inside =>
        simp only [Reading.option, reading, inside.optional?.1, inside.optional?.2,
          Option.map_eq_some_iff] at reads ⊢
        obtain ⟨value, reads, rfl⟩ := reads
        exact ⟨value, faithful.respelled inside reads, rfl⟩
  repeats := by
    intro json repeats
    cases repeats with
    | present inside =>
        simp only [Reading.option, reading, inside.optional?, faithful.repeats inside,
          Option.map_none]

/-- A reader of a record that takes all known fields. -/
theorem Faithful.record {get : Given Json → Option α} (apart : Apart known)
    (obtains : Obtains known get)
    (reads : ∀ members, read (.object members) = get (.named members)) :
    Faithful (.record label known) read where
  respelled := by
    intro json json' result respelled read_json
    obtain ⟨members, members', rfl, rfl, kept⟩ := respelled.kept apart
    rw [reads] at read_json ⊢
    exact obtains.kept kept read_json
  repeats := by
    intro json repeats
    obtain ⟨members, rfl, entry, there, broken⟩ := repeats.broken
    rw [reads]
    cases obtained : get (.named members) with
    | none => rfl
    | some result => exact absurd broken (obtains.sound obtained entry there)

theorem Obtains.pure (result : α) : Obtains [] fun _ => some result where
  kept _ obtained := obtained
  sound _ := nofun

/-- One field, and then the others. -/
theorem Obtains.bind {entry : List String × Shape} {first : Given Json → Option β}
    {then_ : β → Given Json → Option α} (now : Obtains [entry] first)
    (later : ∀ value, Obtains rest (then_ value)) :
    Obtains (entry :: rest) fun given => first given >>= fun value => then_ value given where
  kept := by
    intro members members' result kept obtained
    obtain ⟨value, here, there⟩ := Option.bind_eq_some_iff.1 obtained
    have kept_now := now.kept (List.forall_mem_singleton.2 (kept entry List.mem_cons_self)) here
    have kept_later := (later value).kept (fun other member => kept other (.tail _ member)) there
    exact Option.bind_eq_some_iff.2 ⟨value, kept_now, kept_later⟩
  sound := by
    intro members result obtained
    obtain ⟨value, here, there⟩ := Option.bind_eq_some_iff.1 obtained
    exact List.forall_mem_cons.2
      ⟨now.sound here entry List.mem_cons_self, (later value).sound there⟩

/-- A field that has to be there is not one that may be `null`. -/
theorem Obtains.required (field : Field) (faithful : Faithful shape read)
    (needed : ∀ inner, shape ≠ .optional inner) :
    Obtains [(field.names, shape)] fun given => given.required field read where
  kept := by
    intro members members' result kept obtained
    replace kept := List.forall_mem_singleton.1 kept
    simp only [Given.required, Given.value?_named] at kept obtained ⊢
    revert kept obtained
    generalize only? (valuesUnder field.names members) = given
    generalize only? (valuesUnder field.names members') = given'
    intro kept obtained
    cases kept with
    | same => exact obtained
    | spoilt => cases obtained
    | respelled inside => exact faithful.respelled inside obtained
    | dropped optional => exact absurd optional (needed _)
  sound := by
    intro members result obtained
    refine List.forall_mem_singleton.2 ?_
    simp only [Given.required, Given.value?_named] at obtained ⊢
    revert obtained
    generalize only? (valuesUnder field.names members) = given
    rintro obtained (_ | repeats)
    · cases obtained
    · cases (faithful.repeats repeats).symm.trans obtained

/-- A field that may be `null` may as well be left out. -/
theorem Obtains.optional (field : Field) (faithful : Faithful shape read) :
    Obtains [(field.names, .optional shape)] fun given =>
      given.defaulting field none (reading.option read) where
  kept := by
    intro members members' result kept obtained
    replace kept := List.forall_mem_singleton.1 kept
    simp only [Given.defaulting, Given.value?_named] at kept obtained ⊢
    revert kept obtained
    generalize only? (valuesUnder field.names members) = given
    generalize only? (valuesUnder field.names members') = given'
    intro kept obtained
    cases kept with
    | same => exact obtained
    | spoilt => cases obtained
    | respelled inside => exact faithful.optional.respelled inside obtained
    | dropped => exact obtained
  sound := by
    intro members result obtained
    refine List.forall_mem_singleton.2 ?_
    simp only [Given.defaulting, Given.value?_named] at obtained ⊢
    revert obtained
    generalize only? (valuesUnder field.names members) = given
    rintro obtained (_ | repeats)
    · cases obtained
    · cases (faithful.optional.repeats repeats).symm.trans obtained

end Readers

end Config.Json

open Config (Json)
open Config.Json (Faithful Obtains Repeats Respelled)

/-! ## The directory's settings -/

theorem Query.read_faithful : Faithful Settings.queryShape (Query.read Json.reading) :=
  .record (by decide) (.bind (.required baseField .text nofun) fun base =>
    .bind (.required filterField .text nofun) fun filter =>
      .bind (.required resultField .text nofun) fun resultAttribute =>
        .pure ⟨base, filter, resultAttribute⟩) fun members => rfl

theorem Bind.read_faithful : Faithful Settings.bindShape (Bind.read Json.reading) :=
  .record (by decide) (.bind (.required dnField .text nofun) fun dn =>
    .bind (.required passwordField .text nofun) fun password => .pure ⟨dn, password⟩)
    fun members => rfl

theorem Query.read_toJson (query : Query) : Query.read Json.reading query.toJson = some query := rfl

theorem Bind.read_toJson (bind : Bind) : Bind.read Json.reading bind.toJson = some bind := rfl

theorem Config.Json.seconds?_ofSeconds (seconds : UInt64) :
    Json.seconds? (.ofSeconds seconds) = some seconds := by
  have fits : seconds.toNat < UInt64.size := seconds.toNat_lt_size
  simp [Json.ofSeconds, Json.seconds?, fits]

/-- What is written of an optional value is read again, if no value is written as `null`. -/
theorem Config.Json.option_ofOption {α : Type} {write : α → Json} {read : Json → Option α}
    (there : ∀ value, Json.optional? (write value) = some (some (write value)))
    (reads : ∀ value, read (write value) = some value) (value? : Option α) :
    Json.reading.option read (.ofOption write value?) = some value? := by
  cases value? with
  | none => rfl
  | some value => simp [Json.ofOption, Reading.option, Json.reading, there, reads]

namespace LdapConfig

theorem read_faithful : Faithful Settings.ldapShape ofJson? :=
  .record (by decide) (.bind (.required hostField .text nofun) fun host =>
    .bind (.optional bindField Bind.read_faithful) fun bind =>
      .bind (.optional connectField .seconds) fun connect =>
        .bind (.optional searchField .seconds) fun search =>
          .bind (.required listField Query.read_faithful nofun) fun list =>
            .bind (.required accountField Query.read_faithful nofun) fun account =>
              .pure ⟨host, bind, connect, search, list, account⟩) fun members => rfl

theorem ofJson?_toJson (config : LdapConfig) : ofJson? config.toJson = some config := by
  obtain ⟨host, bind, connect, search, list, account⟩ := config
  -- Every member is found under its own name; what is left is to read the three optional ones.
  change (do
    let bind ← Json.reading.option (Bind.read Json.reading) (.ofOption Bind.toJson bind)
    let connect ← Json.reading.option Json.seconds? (.ofOption Json.ofSeconds connect)
    let search ← Json.reading.option Json.seconds? (.ofOption Json.ofSeconds search)
    return (⟨host, bind, connect, search, list, account⟩ : LdapConfig)) = _
  rw [Config.Json.option_ofOption (fun _ => rfl) Bind.read_toJson,
    Config.Json.option_ofOption (fun _ => rfl) Config.Json.seconds?_ofSeconds,
    Config.Json.option_ofOption (fun _ => rfl) Config.Json.seconds?_ofSeconds]
  rfl

/-- **Directory settings survive being written, and all their spellings mean the same.**  What
is written of settings reads as these settings.  Whatever reads as settings reads as the same
ones after any number of changes of spelling, at any depth.  What gives a field twice, under one
of its names or two, reads as nothing. -/
theorem spelled_alike :
    (∀ config : LdapConfig, ofJson? config.toJson = some config) ∧
    (∀ config json json', ofJson? json = some config →
      Relation.ReflTransGen (Respelled Settings.ldapShape) json json' →
        ofJson? json' = some config) ∧
    ∀ json, Repeats Settings.ldapShape json → ofJson? json = none := by
  refine ⟨ofJson?_toJson, fun config json json' reads spellings => ?_, fun json =>
    read_faithful.repeats⟩
  induction spellings with
  | refl => exact reads
  | tail earlier last ih => exact read_faithful.respelled last ih

example :
    ofJson? (.object
      [("list_query", .object [("result", .text "member"), ("base", .text "ou=lists"),
        ("filter_template", .text "(mail=%u)")]),
       ("comment", .list [.null]),
       ("bind", .object [("pwd", .text "secret"), ("dn", .text "cn=x")]),
       ("acct_query", .object [("base", .text "ou=people"), ("result_attribute", .text "mail"),
        ("filter", .text "(uid=%u)")]),
       ("search_secs", .null), ("host", .text "ldap://localhost")]) =
      some ⟨"ldap://localhost", some ⟨"cn=x", "secret"⟩, none, none,
        ⟨"ou=lists", "(mail=%u)", "member"⟩, ⟨"ou=people", "(uid=%u)", "mail"⟩⟩ := rfl

end LdapConfig

end ListExpansion
