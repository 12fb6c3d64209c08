/-
# ListExpansion.Proofs.Resolver.EmptySearch -- searches without a base or a filter

A search with an empty base reaches the whole directory.  No template of the configuration is
empty, but what is left of one may be: substitution comes to nothing just when the template is
a row of placeholders none of which has a value (`substitute_eq_nil_iff`).

The addresses of a captured session are not empty, so `%u` always has a value, `%d` and `%n`
have none only for addresses of a certain form (`Dwindles`).  `empty_search_dwindled` carries
this to every search of every run.
-/
import ListExpansion.Proofs.Resolver.Searches
import ListExpansion.Proofs.Template
import ListExpansion.Text.Blank
import Mathlib.Data.Set.List

namespace ListExpansion

set_option autoImplicit false

/-! ## Templates that come to nothing -/

namespace Template

variable {template : String} {address : Bytes} {placeholders : List Placeholder}

theorem ofText_join_placeholders (placeholders : List Placeholder) :
    Bytes.ofText (String.join (placeholders.map Placeholder.text)) =
      (placeholders.map Token.placeholder).flatMap Token.spelling := by
  induction placeholders with
  | nil => exact Bytes.ofText_empty
  | cons which rest ih =>
      rw [List.map_cons, String.join_cons, Bytes.ofText_append, ih, ofText_placeholder,
        List.map_cons, List.flatMap_cons]
      rfl

/-- A row of placeholders is cut between them. -/
theorem cut_join_placeholders (placeholders : List Placeholder) :
    Cut (Bytes.ofText (String.join (placeholders.map Placeholder.text)))
      (placeholders.map Token.placeholder) where
  spelled := (ofText_join_placeholders placeholders).symm
  greedy which left := by
    have literal : Token.literal percent ∈ placeholders.map Token.placeholder :=
      left.subset List.mem_cons_self
    obtain ⟨_, -, same⟩ := List.mem_map.1 literal
    cases same

theorem placeholders_of_tokens
    (all : ∀ token ∈ tokens (Bytes.ofText template), ∃ which, token = .placeholder which) :
    ∃ placeholders : List Placeholder, template = String.join (placeholders.map Placeholder.text) ∧
      tokens (Bytes.ofText template) = placeholders.map .placeholder := by
  have within : tokens (Bytes.ofText template) ∈ Set.range (List.map Token.placeholder) := by
    rw [Set.range_list_map]
    intro token member
    obtain ⟨which, rfl⟩ := all token member
    exact ⟨which, rfl⟩
  obtain ⟨placeholders, same⟩ := within
  refine ⟨placeholders, Utf8.ofText_injective ?_, same.symm⟩
  rw [ofText_join_placeholders, same, spelling_tokens]

/-- What is left is empty just when there was nothing but placeholders without a value. -/
theorem substitute_eq_nil_iff :
    substitute template address = [] ↔
      ∃ placeholders : List Placeholder,
        template = String.join (placeholders.map Placeholder.text) ∧
          ∀ which ∈ placeholders, which.value (.ofAddress address) = [] := by
  unfold substitute
  rw [List.flatMap_eq_nil_iff]
  constructor
  · intro void
    have all (token : Token) (member : token ∈ tokens (Bytes.ofText template)) :
        ∃ which, token = .placeholder which := by
      cases token with
      | literal octet => cases void _ member
      | placeholder which => exact ⟨which, rfl⟩
    obtain ⟨placeholders, spelled, same⟩ := placeholders_of_tokens all
    refine ⟨placeholders, spelled, fun which member => ?_⟩
    exact void (.placeholder which) (same ▸ List.mem_map_of_mem member)
  · rintro ⟨placeholders, rfl, void⟩ token member
    rw [tokens_eq_iff.2 (cut_join_placeholders placeholders)] at member
    obtain ⟨which, there, rfl⟩ := List.mem_map.1 member
    exact void which there

/-- Some octet of the template stays as it is, or the whole address is put into it. -/
def Lasting (template : String) : Prop :=
  ∃ cut, Cut (Bytes.ofText template) cut ∧
    ((∃ octet, Token.literal octet ∈ cut) ∨ Token.placeholder .address ∈ cut)

/-- The template is a row of `%d` and `%n`, and `address` has nothing to put in their place. -/
structure Dwindles (template : String) (address : Bytes) (placeholders : List Placeholder) :
    Prop where
  spelled : template = String.join (placeholders.map Placeholder.text)
  narrow : ∀ which ∈ placeholders, which = .domain ∨ which = .localPart
  domain : .domain ∈ placeholders →
    atSign ∉ address ∨ ∃ before, atSign ∉ before ∧ address = before ++ [atSign]
  localPart : .localPart ∈ placeholders → address.head? = some atSign

theorem substitute_eq_nil_iff_dwindles (given : address ≠ []) :
    substitute template address = [] ↔ ∃ placeholders, Dwindles template address placeholders := by
  have splits := AddressParts.ofAddress_splits address
  rw [substitute_eq_nil_iff]
  refine exists_congr fun placeholders => ⟨?_, fun dwindles => ⟨dwindles.spelled, ?_⟩⟩
  · rintro ⟨spelled, void⟩
    refine ⟨spelled, fun which member => ?_, fun member => ?_, fun member => ?_⟩
    · cases which with
      | address => exact absurd (splits.full.symm.trans (void _ member)) given
      | domain => exact .inl rfl
      | localPart => exact .inr rfl
    · exact splits.domain_eq_nil_iff.1 (void _ member)
    · exact (splits.localPart_eq_nil_iff given).1 (void _ member)
  · intro which member
    rcases dwindles.narrow which member with rfl | rfl
    · exact splits.domain_eq_nil_iff.2 (dwindles.domain member)
    · exact (splits.localPart_eq_nil_iff given).2 (dwindles.localPart member)

theorem Dwindles.not_lasting (dwindles : Dwindles template address placeholders) :
    ¬ Lasting template := by
  rintro ⟨cut, isCut, lasts⟩
  have same : cut = placeholders.map .placeholder := by
    rw [isCut.eq_tokens, dwindles.spelled]
    exact tokens_eq_iff.2 (cut_join_placeholders placeholders)
  subst same
  rcases lasts with ⟨octet, member⟩ | member
  · obtain ⟨_, -, same⟩ := List.mem_map.1 member
    cases same
  · obtain ⟨which, there, same⟩ := List.mem_map.1 member
    cases same
    rcases dwindles.narrow _ there with same | same <;> cases same

end Template

/-! ## Searches that come to nothing -/

theorem Bytes.ofText_eq_nil_iff {text : String} : Bytes.ofText text = [] ↔ text = "" := by
  rw [← Bytes.ofText_empty]
  exact ⟨fun same => Utf8.ofText_injective same, congrArg Bytes.ofText⟩

/-- A template that is not blank has something in it. -/
theorem Template.Dwindles.placeholders_ne_nil {template : String} {address : Bytes}
    {placeholders : List Placeholder} (dwindles : Dwindles template address placeholders)
    (worded : Text.isBlank template = false) : placeholders ≠ [] := by
  rintro rfl
  have void : template = "" := dwindles.spelled
  subst void
  cases worded

namespace Query.Fills

open Template (Dwindles)

variable {query : Query} {address : Bytes} {search : Search} (fills : query.Fills address search)
  (given : address ≠ [])

include fills given

theorem base_eq_empty_iff :
    search.base = "" ↔ ∃ placeholders, Dwindles query.base address placeholders := by
  rw [← Bytes.ofText_eq_nil_iff, fills.base, Template.substitute_eq_nil_iff_dwindles given]

theorem filter_eq_empty_iff :
    search.filter = "" ↔ ∃ placeholders, Dwindles query.filter address placeholders := by
  rw [← Bytes.ofText_eq_nil_iff, fills.filter, Template.substitute_eq_nil_iff_dwindles given]

end Query.Fills

namespace Resolver

open Template (Dwindles Lasting Placeholder substitute)

/-- The search was made when a transaction ended, and is the list query for the captured sender
or the account query for the account. -/
inductive AskedFor (lookups : Lookups) (history : List (TransactionId × Call)) (search : Search) :
    Query → Bytes → Prop
  | list {before after : List (TransactionId × Call)} {id : TransactionId} {last : Call}
      {session : Session} (ends : history = before ++ (id, .endOfTransaction) :: after)
      (latest : (callsOf id before).getLast? = some last) (captures : last.Captures session)
      (fills : lookups.list.Fills session.sender search) :
      AskedFor lookups history search lookups.list session.sender
  | account {before after : List (TransactionId × Call)} {id : TransactionId} {last : Call}
      {session : Session} (ends : history = before ++ (id, .endOfTransaction) :: after)
      (latest : (callsOf id before).getLast? = some last) (captures : last.Captures session)
      (fills : lookups.account.Fills session.account search) :
      AskedFor lookups history search lookups.account session.account

section AskedFor

variable {lookups : Lookups} {history : List (TransactionId × Call)} {search : Search}
  {query : Query} {address : Bytes}

/-- What is captured is not empty. -/
theorem AskedFor.given (asked : AskedFor lookups history search query address) : address ≠ [] := by
  cases asked with
  | list ends latest captures fills =>
      obtain ⟨_, _, _, -, -, named, -, -, rfl⟩ := captures
      exact named
  | account ends latest captures fills =>
      obtain ⟨_, _, _, -, given, -, -, -, rfl⟩ := captures
      exact given

theorem AskedFor.fills (asked : AskedFor lookups history search query address) :
    query.Fills address search := by
  cases asked with
  | list ends latest captures fills => exact fills
  | account ends latest captures fills => exact fills

theorem AskedFor.configured (asked : AskedFor lookups history search query address) :
    query = lookups.list ∨ query = lookups.account := by
  cases asked with
  | list ends latest captures fills => exact .inl rfl
  | account ends latest captures fills => exact .inr rfl

end AskedFor

variable {σ : Type} {directory : Directory σ} {recorded : σ → List Search}

/-- Every search of a run was asked for. -/
theorem asked_of_run (records : directory.Records recorded) (lookups : Lookups) (start : σ)
    (history : List (TransactionId × Call)) :
    ∃ made : List Search,
      recorded ((new lookups).run directory start history).2.2 = recorded start ++ made ∧
        ∀ search ∈ made, ∃ query address, AskedFor lookups history search query address := by
  obtain ⟨made, -, shows, -, members⟩ := run_due records lookups start history
  refine ⟨made.flatten, shows, fun search member => ?_⟩
  obtain ⟨searches, isMade, inSearches⟩ := List.mem_flatten.1 member
  obtain ⟨before, ⟨id, call⟩, after, parted, due⟩ := members searches isMade
  cases due with
  | resolving latest captures searched =>
      rcases searched.fills inSearches with fills | fills
      · exact ⟨_, _, .list parted latest captures fills⟩
      · exact ⟨_, _, .account parted latest captures fills⟩
  | noSession _ => cases inSearches
  | otherCall _ => cases inSearches

/-- **A search loses its base or its filter only to placeholders without a value.**  Substitution
comes to nothing just for a row of placeholders that all come to nothing.  In a run whose queries
are not blank those are `%d`, for an address without a domain, and `%n`, for one that begins
with its domain; with any octet besides, or with `%u`, something always stays. -/
theorem empty_search_dwindled (records : directory.Records recorded) (lookups : Lookups)
    (worded : ∀ query, query = lookups.list ∨ query = lookups.account →
      Text.isBlank query.base = false ∧ Text.isBlank query.filter = false)
    (start : σ) (history : List (TransactionId × Call)) :
    (∀ template address, substitute template address = [] ↔
      ∃ placeholders : List Placeholder,
        template = String.join (placeholders.map Placeholder.text) ∧
          ∀ which ∈ placeholders, which.value (.ofAddress address) = []) ∧
    ∃ made : List Search,
      recorded ((new lookups).run directory start history).2.2 = recorded start ++ made ∧
        ∀ search ∈ made, ∃ query address, AskedFor lookups history search query address ∧
          (search.base = "" → ∃ placeholders, placeholders ≠ [] ∧
            Dwindles query.base address placeholders) ∧
          (search.filter = "" → ∃ placeholders, placeholders ≠ [] ∧
            Dwindles query.filter address placeholders) ∧
          (Lasting query.base → search.base ≠ "") ∧ (Lasting query.filter → search.filter ≠ "") := by
  obtain ⟨made, shows, asked⟩ := asked_of_run records lookups start history
  refine ⟨fun template address => Template.substitute_eq_nil_iff, made, shows, fun search member => ?_⟩
  obtain ⟨query, address, asked⟩ := asked search member
  have base := asked.fills.base_eq_empty_iff asked.given
  have filter := asked.fills.filter_eq_empty_iff asked.given
  obtain ⟨wordedBase, wordedFilter⟩ := worded query asked.configured
  refine ⟨query, address, asked, fun void => ?_, fun void => ?_, fun lasts void => ?_,
    fun lasts void => ?_⟩
  · obtain ⟨placeholders, dwindles⟩ := base.1 void
    exact ⟨placeholders, dwindles.placeholders_ne_nil wordedBase, dwindles⟩
  · obtain ⟨placeholders, dwindles⟩ := filter.1 void
    exact ⟨placeholders, dwindles.placeholders_ne_nil wordedFilter, dwindles⟩
  · obtain ⟨placeholders, dwindles⟩ := base.1 void
    exact dwindles.not_lasting lasts
  · obtain ⟨placeholders, dwindles⟩ := filter.1 void
    exact dwindles.not_lasting lasts

/-! ## A list without a domain and an account without a name -/

namespace Example

/-- Templates that lose everything to some addresses. -/
def bareLookups : Lookups := ⟨⟨"%d", "(mail=%u)", "member"⟩, ⟨"ou=people", "%n%n", "mail"⟩⟩

/-- The sender `team` on behalf of `@x`. -/
def bareHistory : List (TransactionId × Call) :=
  [(⟨0⟩, .sender (fun _ => true) [0x74, 0x65, 0x61, 0x6D] (some [0x40, 0x78])),
    (⟨0⟩, .endOfTransaction)]

def bareDirectory : PreparedDirectory :=
  PreparedDirectory.empty.prepare "" "(mail=team)" (.values [[0x61]])

theorem empty_search_dwindled_bare :
    let searches := ((new bareLookups).run PreparedDirectory.asDirectory bareDirectory
      bareHistory).2.2.searches
    (∀ query, query = bareLookups.list ∨ query = bareLookups.account →
      Text.isBlank query.base = false ∧ Text.isBlank query.filter = false) ∧
    searches = [⟨"", "(mail=team)", "member"⟩, ⟨"ou=people", "", "mail"⟩] ∧
    ∀ search ∈ searches, ∃ query address, AskedFor bareLookups bareHistory search query address ∧
      (search.base = "" → ∃ placeholders, placeholders ≠ [] ∧
        Dwindles query.base address placeholders) ∧
      (search.filter = "" → ∃ placeholders, placeholders ≠ [] ∧
        Dwindles query.filter address placeholders) := by
  intro searches
  have worded : ∀ query, query = bareLookups.list ∨ query = bareLookups.account →
      Text.isBlank query.base = false ∧ Text.isBlank query.filter = false := by
    rintro query (rfl | rfl) <;> decide
  obtain ⟨-, made, shows, each⟩ := empty_search_dwindled Directory.records_prepared bareLookups
    worded bareDirectory bareHistory
  refine ⟨worded, by decide +kernel, fun search member => ?_⟩
  have same : searches = made := shows
  obtain ⟨query, address, asked, base, filter, -, -⟩ := each search (same ▸ member)
  exact ⟨query, address, asked, base, filter⟩

end Example

end Resolver

end ListExpansion
