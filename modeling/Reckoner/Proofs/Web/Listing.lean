import Mathlib.Data.List.Forall2
import Reckoner.Panel.Basic
import Reckoner.Proofs.Service.Local
import Reckoner.Proofs.Web.Reply

/-!
# What the client makes of a listing

A client that asks for the log is promised the entries that a reply lists, in order, or else the
announcement that the service is unavailable or that it refused. The reply is taken apart without a
look at its shape. So the promise is kept for every reply but those that say they succeeded and
whose data are something else than a list of entries: taking these apart breaks off with an error
that is not announced, and breaks off the panel with it, unless there is nothing to take apart.
-/

namespace Reckoner

namespace Web

/-! ## Listings -/

/-- An item is an object with these values under the names of an expression and a result. -/
def IsEntry (item : Json) (entry : Json × Json) : Prop :=
  ∃ fields, item = .object fields ∧ Fields.get? fields "expression" = some entry.1 ∧
    Fields.get? fields "result" = some entry.2

/-- Data are a list of entries. Where there are no data, there are no entries. -/
def HasEntries (fields : Fields) (entries : List (Json × Json)) : Prop :=
  (Fields.get? fields "data" = none ∧ entries = []) ∨
    ∃ items, Fields.get? fields "data" = some (.array items) ∧ List.Forall₂ IsEntry items entries

/-- Data are no list, but there is nothing in them either. -/
def HasNothing (fields : Fields) : Prop :=
  Fields.get? fields "data" = some (.string []) ∨ Fields.get? fields "data" = some (.object [])

namespace Exchange

/-- A reply lists entries. -/
def Lists (reply : Exchange) (entries : List (Json × Json)) : Prop :=
  ∃ fields, reply.Succeeds fields ∧ HasEntries fields entries

/-- A reply says it succeeded, but what it has in place of a list of entries is none. -/
def Garbled (reply : Exchange) : Prop :=
  ∃ fields, reply.Succeeds fields ∧ ∀ entries, ¬HasEntries fields entries

/-- A reply says it succeeded, and has nothing in place of a list. -/
def Hollow (reply : Exchange) : Prop := ∃ fields, reply.Succeeds fields ∧ HasNothing fields

end Exchange

/-! ## Lists and what is none -/

variable {fields : Fields} {entries others : List (Json × Json)} {reply : Exchange}

/-- An item is one entry at most. -/
theorem IsEntry.unique {item : Json} {entry other : Json × Json} (first : IsEntry item entry)
    (second : IsEntry item other) : entry = other := by
  obtain ⟨fields, rfl, expression, result⟩ := first
  obtain ⟨_, same, expression', result'⟩ := second
  cases same
  refine Prod.ext ?_ ?_
  · exact Option.some.inj (expression.symm.trans expression')
  · exact Option.some.inj (result.symm.trans result')

/-- Data have the entries of one list at most. -/
theorem HasEntries.unique (first : HasEntries fields entries) (second : HasEntries fields others) :
    entries = others := by
  rcases first with ⟨absent, rfl⟩ | ⟨items, list, all⟩
  · rcases second with ⟨-, rfl⟩ | ⟨items, list, -⟩
    · rfl
    · cases absent.symm.trans list
  · rcases second with ⟨absent, -⟩ | ⟨items', list', all'⟩
    · cases absent.symm.trans list
    · cases list.symm.trans list'
      have one : Relator.RightUnique IsEntry := fun _ _ _ entry other => entry.unique other
      exact one.forall₂ all all'

/-- Data that are no list have no entries. -/
theorem not_hasEntries {data : Json} (held : Fields.get? fields "data" = some data)
    (no_list : ∀ items, data ≠ .array items) : ¬HasEntries fields entries := by
  rintro (⟨absent, -⟩ | ⟨items, list, -⟩)
  · rw [held] at absent
    cases absent
  · rw [held] at list
    exact no_list items (Option.some.inj list)

namespace Exchange

/-- A reply that says it succeeded declines nothing. -/
theorem Succeeds.not_declines (succeeds : reply.Succeeds fields) : ¬reply.Declines := by
  obtain ⟨status, body, rfl, success⟩ := succeeds
  exact Exchange.not_declines success

/-- A reply that lists entries declines nothing. -/
theorem Lists.not_declines (lists : reply.Lists entries) : ¬reply.Declines := by
  obtain ⟨fields, succeeds, -⟩ := lists
  exact succeeds.not_declines

/-- A reply lists the entries of one list at most. -/
theorem Lists.unique (first : reply.Lists entries) (second : reply.Lists others) :
    entries = others := by
  obtain ⟨fields, succeeds, has⟩ := first
  obtain ⟨fields', succeeds', has'⟩ := second
  obtain rfl := succeeds.unique succeeds'
  exact has.unique has'

/-- A garbled reply lists nothing. -/
theorem Garbled.not_lists (garbled : reply.Garbled) : ¬reply.Lists entries := by
  obtain ⟨fields, succeeds, no_entries⟩ := garbled
  rintro ⟨others, same, has⟩
  obtain rfl := succeeds.unique same
  exact no_entries entries has

/-- A hollow reply is garbled. -/
theorem Hollow.garbled (hollow : reply.Hollow) : reply.Garbled := by
  obtain ⟨fields, succeeds, text | object⟩ := hollow
  · exact ⟨fields, succeeds, fun entries => not_hasEntries text nofun⟩
  · exact ⟨fields, succeeds, fun entries => not_hasEntries object nofun⟩

end Exchange

/-- What is promised of a listing for a reply. -/
structure ListsAsPromised (reply : Exchange)
    (outcome : Except ServiceError (List (Json × Json))) : Prop where
  /-- What is returned are the entries that the reply lists. -/
  returned : ∀ entries, outcome = .ok entries → reply.Lists entries
  /-- Entries that the reply lists are returned. -/
  returns : ∀ entries, reply.Lists entries → outcome = .ok entries
  /-- A refusal is announced if the reply declines the request, and only then. -/
  rejected : (∃ message status, outcome = .error (.rejected message status)) ↔ reply.Declines
  /-- Nothing but an announcement is raised. -/
  announced : ∀ e, outcome = .error e →
    (∃ message, e = .unavailable message) ∨ ∃ message status, e = .rejected message status

/-! ## Taking a listing apart -/

namespace Client

/-- A part has a name in an object, and nowhere else. -/
theorem namedPart_eq_ok_iff {name : Text} {item value : Json} :
    namedPart name item = .ok value ↔
      ∃ fields, item = .object fields ∧ Fields.get? fields name = some value := by
  cases item with
  | object fields =>
    cases held : Fields.get? fields name with
    | none => simp [namedPart, held]
    | some other => simp [namedPart, held]
  | null | bool | int | double | string | array => simp [namedPart]

/-- Looking for a name breaks off without an announcement. -/
theorem namedPart_unannounced {name : Text} {item : Json} {e : ServiceError}
    (broken : namedPart name item = .error e) : e.isAnnounced = false := by
  cases item with
  | object fields =>
    simp only [namedPart] at broken
    split at broken
    · cases broken
    · cases broken
      rfl
  | null | bool | int | double | string | array =>
    cases broken
    rfl

/-- An entry is read of an item that is one, and of no other. -/
theorem entryOf_eq_ok_iff {item : Json} {entry : Json × Json} :
    entryOf item = .ok entry ↔ IsEntry item entry := by
  simp only [entryOf, bind_eq_ok_iff, namedPart_eq_ok_iff, pure, Except.pure, Except.ok.injEq]
  constructor
  · rintro ⟨expression, ⟨fields, rfl, first⟩, result, ⟨_, same, second⟩, rfl⟩
    cases same
    exact ⟨fields, rfl, first, second⟩
  · rintro ⟨fields, rfl, first, second⟩
    exact ⟨entry.1, ⟨fields, rfl, first⟩, entry.2, ⟨fields, rfl, second⟩, rfl⟩

/-- Reading an entry breaks off without an announcement. -/
theorem entryOf_unannounced {item : Json} {e : ServiceError} (broken : entryOf item = .error e) :
    e.isAnnounced = false := by
  unfold entryOf at broken
  cases first : namedPart "expression" item with
  | error other =>
    rw [first] at broken
    cases broken
    exact namedPart_unannounced first
  | ok expression =>
    rw [first] at broken
    cases second : namedPart "result" item with
    | error other =>
      rw [second] at broken
      cases broken
      exact namedPart_unannounced second
    | ok result =>
      rw [second] at broken
      cases broken

/-- Entries are read of items that are entries one by one. -/
theorem mapM_entryOf_eq_ok_iff {items : List Json} :
    items.mapM entryOf = .ok entries ↔ List.Forall₂ IsEntry items entries := by
  induction items generalizing entries with
  | nil => simp [pure, Except.pure, eq_comm]
  | cons item items ih =>
    simp only [List.mapM_cons, bind_eq_ok_iff, entryOf_eq_ok_iff, ih, pure, Except.pure,
      Except.ok.injEq]
    constructor
    · rintro ⟨entry, first, rest, others, rfl⟩
      exact .cons first others
    · rintro (_ | ⟨first, others⟩)
      exact ⟨_, first, _, others, rfl⟩

/-- Reading entries breaks off without an announcement. -/
theorem mapM_entryOf_unannounced {items : List Json} {e : ServiceError}
    (broken : items.mapM entryOf = .error e) : e.isAnnounced = false := by
  induction items with
  | nil => cases broken
  | cons item items ih =>
    rw [List.mapM_cons] at broken
    cases first : entryOf item with
    | error other =>
      rw [first] at broken
      cases broken
      exact entryOf_unannounced first
    | ok entry =>
      rw [first] at broken
      cases others : items.mapM entryOf with
      | error other =>
        rw [others] at broken
        cases broken
        exact ih others
      | ok rest =>
        rw [others] at broken
        cases broken

/-- What comes of taking fields apart. -/
inductive Opens (fields : Fields) : Except ServiceError (List (Json × Json)) → Prop where
  /-- The entries are returned. -/
  | listed {entries : List (Json × Json)} (has : HasEntries fields entries) :
    Opens fields (.ok entries)
  /-- Nothing is taken for an empty list. -/
  | hollow (nothing : HasNothing fields) : Opens fields (.ok [])
  /-- Data that are something else break off. -/
  | broken {e : ServiceError} (no_entries : ∀ entries, ¬HasEntries fields entries)
    (something : ¬HasNothing fields) (unannounced : e.isAnnounced = false) :
    Opens fields (.error e)

/-- Data that are no list and have something in them break off. -/
theorem Opens.of_other {data : Json} (held : Fields.get? fields "data" = some data)
    (no_list : ∀ items, data ≠ .array items) (some_text : data ≠ .string [])
    (some_name : data ≠ .object []) {e : ServiceError} (unannounced : e.isAnnounced = false) :
    Opens fields (.error e) := by
  refine .broken (fun entries => not_hasEntries held no_list) ?_ unannounced
  rintro (text | object)
  · exact some_text (Option.some.inj (held.symm.trans text))
  · exact some_name (Option.some.inj (held.symm.trans object))

/-- A list of items is taken apart item by item. -/
theorem Opens.of_items {items : List Json}
    (held : Fields.get? fields "data" = some (.array items)) :
    Opens fields (items.mapM entryOf) := by
  cases read : items.mapM entryOf with
  | ok entries => exact .listed (.inr ⟨items, held, mapM_entryOf_eq_ok_iff.1 read⟩)
  | error e =>
    refine .broken (fun entries has => ?_) ?_ (mapM_entryOf_unannounced read)
    · rcases has with ⟨absent, -⟩ | ⟨others, list, all⟩
      · rw [held] at absent
        cases absent
      · rw [held] at list
        cases list
        rw [mapM_entryOf_eq_ok_iff.2 all] at read
        cases read
    · rintro (text | object)
      · cases held.symm.trans text
      · cases held.symm.trans object

/-- Fields are taken apart in one of three ways. -/
theorem entriesOf_opens (fields : Fields) : Opens fields (entriesOf fields) := by
  unfold entriesOf
  cases held : Fields.get? fields "data" with
  | none => exact .listed (.inl ⟨held, rfl⟩)
  | some data =>
    -- What is no container breaks off at once, and what is one of texts at its first item.
    cases data with
    | array items => exact .of_items held
    | string text =>
      cases text with
      | nil => exact .hollow (.inl held)
      | cons c text => exact .of_other (e := .shape .textIndex) held nofun nofun nofun rfl
    | object data =>
      cases data with
      | nil => exact .hollow (.inr held)
      | cons field data => exact .of_other (e := .shape .textIndex) held nofun nofun nofun rfl
    | null => exact .of_other (e := .shape (.notIterable "NoneType")) held nofun nofun nofun rfl
    | bool | int | double =>
      exact .of_other (e := .shape (.notIterable _)) held nofun nofun nofun rfl

/-! ## What is made of a reply -/

/-- What comes of a reply to a client that asks for the log. -/
inductive ListComes (reply : Exchange) : Except ServiceError (List (Json × Json)) → Prop where
  /-- The entries are returned. -/
  | listed {entries : List (Json × Json)} (lists : reply.Lists entries) :
      ListComes reply (.ok entries)
  /-- Nothing in place of a list is taken for an empty one. -/
  | hollow (hollow : reply.Hollow) : ListComes reply (.ok [])
  /-- Anything else in place of a list breaks off. -/
  | broken {e : ServiceError} (garbled : reply.Garbled) (something : ¬reply.Hollow)
      (unannounced : e.isAnnounced = false) : ListComes reply (.error e)
  /-- A refusal is announced. -/
  | declined {message : Text} {status : Int} (declines : reply.Declines) :
      ListComes reply (.error (.rejected message status))
  /-- That nothing usable came is announced. -/
  | unusable {message : Text} (no_success : ∀ fields, ¬reply.Succeeds fields)
      (no_refusal : ¬reply.Declines) : ListComes reply (.error (.unavailable message))

variable (base : Text) (days : Json) (reply : Exchange) (calls : List Call)

/-- Asking for the log is one request, and what it comes to is read from the reply. -/
theorem history_always : ∃ label, history (always reply) base days calls =
    (interpret label reply >>= entriesOf, calls ++ [⟨"GET", "/api/history", .days days⟩]) := by
  refine ⟨"GET" ++ " " ++ base ++ "/api/history", ?_⟩
  simp only [history, request_always]
  cases interpret ("GET" ++ " " ++ base ++ "/api/history") reply with
  | error e => rfl
  | ok body => rfl

/-- Every reply comes to one of five things. -/
theorem history_comes : ListComes reply (history (always reply) base days calls).1 := by
  obtain ⟨label, asked⟩ := history_always base days reply calls
  have reads := interpret_reads label reply
  rw [asked]
  generalize interpret label reply = read at reads
  cases reads with
  | declined declines => exact .declined declines
  | unusable no_success no_refusal => exact .unusable no_success no_refusal
  | @succeeded fields succeeds =>
    show ListComes reply (entriesOf fields)
    have opens := entriesOf_opens fields
    generalize entriesOf fields = opened at opens
    cases opens with
    | listed has => exact .listed ⟨fields, succeeds, has⟩
    | hollow nothing => exact .hollow ⟨fields, succeeds, nothing⟩
    | broken no_entries something unannounced =>
      refine .broken ⟨fields, succeeds, no_entries⟩ ?_ unannounced
      rintro ⟨others, same, nothing⟩
      exact something (succeeds.unique same ▸ nothing)

end Client

namespace Client.ListComes

variable {reply : Exchange} {outcome : Except ServiceError (List (Json × Json))}

/-- Unless a reply is garbled, the promise is kept. -/
theorem asPromised (comes : ListComes reply outcome) (readable : ¬reply.Garbled) :
    ListsAsPromised reply outcome := by
  cases comes with
  | @listed entries lists =>
    refine ⟨fun _ same => Except.ok.inj same ▸ lists, fun _ others => ?_,
      ⟨nofun, fun declines => absurd declines lists.not_declines⟩, nofun⟩
    rw [lists.unique others]
  | hollow hollow => exact absurd hollow.garbled readable
  | broken garbled => exact absurd garbled readable
  | @declined message status declines =>
    refine ⟨nofun, fun _ lists => absurd declines lists.not_declines,
      ⟨fun _ => declines, fun _ => ⟨message, status, rfl⟩⟩, ?_⟩
    intro _ same
    cases same
    exact .inr ⟨message, status, rfl⟩
  | @unusable message no_success no_refusal =>
    refine ⟨nofun, fun _ lists => absurd lists.choose_spec.1 (no_success _),
      ⟨nofun, fun declines => absurd declines no_refusal⟩, ?_⟩
    intro _ same
    cases same
    exact .inl ⟨message, rfl⟩

/-- Nothing is listed by a garbled reply. An empty list comes of it if it is hollow, and otherwise
an error that is not announced. -/
theorem of_garbled (comes : ListComes reply outcome) (garbled : reply.Garbled) :
    reply.Hollow ∧ outcome = .ok [] ∨
      ¬reply.Hollow ∧ ∃ e, outcome = .error e ∧ e.isAnnounced = false := by
  obtain ⟨fields, succeeds, -⟩ := id garbled
  cases comes with
  | listed lists => exact absurd lists garbled.not_lists
  | hollow hollow => exact .inl ⟨hollow, rfl⟩
  | broken _ something unannounced => exact .inr ⟨something, _, rfl, unannounced⟩
  | declined declines => exact absurd declines succeeds.not_declines
  | unusable no_success => exact absurd succeeds (no_success fields)

/-- What breaks off without an announcement is a garbled reply that is not hollow. -/
theorem unannounced_iff (comes : ListComes reply outcome) :
    (∃ e, outcome = .error e ∧ e.isAnnounced = false) ↔ reply.Garbled ∧ ¬reply.Hollow := by
  constructor
  · rintro ⟨e, rfl, unannounced⟩
    cases comes with
    | broken garbled something => exact ⟨garbled, something⟩
    | declined => cases unannounced
    | unusable => cases unannounced
  · rintro ⟨garbled, something⟩
    rcases comes.of_garbled garbled with ⟨hollow, -⟩ | ⟨-, broken⟩
    · exact absurd hollow something
    · exact broken

end Client.ListComes

/-- What is made of a garbled reply is not as promised. -/
theorem ListsAsPromised.not_garbled {reply : Exchange}
    {outcome : Except ServiceError (List (Json × Json))} (promised : ListsAsPromised reply outcome)
    (comes : Client.ListComes reply outcome) : ¬reply.Garbled := by
  intro garbled
  rcases comes.of_garbled garbled with ⟨-, empty⟩ | ⟨-, e, broken, unannounced⟩
  · exact garbled.not_lists (promised.returned _ empty)
  · rcases promised.announced e broken with ⟨message, rfl⟩ | ⟨message, status, rfl⟩
    · cases unannounced
    · cases unannounced

end Web

/-! ## The panel -/

/-- A client that gets the same reply to everything, behind a panel. -/
def Backend.onReply (base : Text) (reply : Web.Exchange) : Backend (List Web.Call) where
  compute _ := Web.Client.provider (Web.Client.always reply) base
  history _ days calls :=
    let (listed, calls) := Web.Client.history (Web.Client.always reply) base days calls
    (List.map (fun entry => (entry.1.plain, entry.2.plain)) <$> listed, calls)
  clear _ calls := Web.Client.clear (Web.Client.always reply) base calls

/-- Drawing the log breaks off because of the service exactly if the service fails without an
announcement. -/
theorem Panel.drawHistory_service_iff {σ : Type} (backend : Backend σ) (now : Calendar.Moment)
    (panel : Panel σ) :
    (∃ e, (drawHistory backend now panel).2 = some (.service e)) ↔
      ∃ e, (backend.history now historyDays panel.service).1 = .error e ∧
        e.isAnnounced = false := by
  unfold drawHistory
  split
  · rename_i e service failed
    rw [failed]
    unfold drawNoHistory
    cases announced : e.isAnnounced with
    | true =>
      constructor
      · rintro ⟨_, none⟩
        cases none
      · rintro ⟨_, same, unannounced⟩
        cases same
        rw [announced] at unannounced
        cases unannounced
    | false => exact ⟨fun _ => ⟨e, rfl, announced⟩, fun _ => ⟨e, rfl⟩⟩
  · rename_i entries service listed
    rw [listed]
    refine ⟨?_, nofun⟩
    rintro ⟨e, fault⟩
    unfold drawEntries at fault
    split at fault
    · cases fault
    · obtain ⟨_, -, same⟩ := Option.map_eq_some_iff.1 fault
      cases same

namespace Web

/-- A client that asks for the log makes one request, whatever the reply. What it comes to is as
promised if and only if a reply that says it succeeded lists entries. If it has nothing in place
of a list, that is taken for an empty one; if it has anything else, an error comes of it that is not
announced, and so it is exactly then that the service breaks off a panel which draws the log. -/
theorem Client.history_asPromised_iff (base : Text) (days : Json) (reply : Exchange)
    (calls : List Call) :
    let asked := Client.history (Client.always reply) base days calls
    asked.2 = calls ++ [⟨"GET", "/api/history", .days days⟩] ∧
    (ListsAsPromised reply asked.1 ↔ ¬reply.Garbled) ∧
    (reply.Garbled → reply.Hollow ∧ asked.1 = .ok [] ∨
      ¬reply.Hollow ∧ ∃ e, asked.1 = .error e ∧ e.isAnnounced = false) ∧
    ∀ (now : Calendar.Moment) (panel : Panel (List Call)),
      (∃ e, (panel.drawHistory (.onReply base reply) now).2 = some (.service e)) ↔
        reply.Garbled ∧ ¬reply.Hollow := by
  intro asked
  have comes : ListComes reply asked.1 := history_comes base days reply calls
  refine ⟨?_, ⟨fun promised => promised.not_garbled comes, comes.asPromised⟩, comes.of_garbled,
    fun now panel => ?_⟩
  · obtain ⟨label, same⟩ := history_always base days reply calls
    rw [show asked = _ from same]
  · rw [Panel.drawHistory_service_iff,
      ← (history_comes base Panel.historyDays reply panel.service).unannounced_iff]
    simp only [Backend.onReply]
    cases (history (always reply) base Panel.historyDays panel.service).1 with
    | error e => simp [Functor.map, Except.map]
    | ok entries => simp [Functor.map, Except.map]

/-- Null in place of a list breaks off, and so does a list of an entry without a result. -/
theorem Client.history_null_and_nameless :
    let listing (data : Json) : Exchange :=
      .answer 200 (some (.object [("success", .bool true), ("data", data)]))
    let asked (data : Json) :=
      (Client.history (Client.always (listing data)) "http://calc.test" .null []).1
    let nameless : Json := .array [.object [("expression", .string "1 + 1")]]
    asked .null = .error (.shape (.notIterable "NoneType")) ∧
      ¬ListsAsPromised (listing .null) (asked .null) ∧
      asked nameless = .error (.missingName "result") ∧
      ¬ListsAsPromised (listing nameless) (asked nameless) := by
  intro listing asked nameless
  refine ⟨rfl, fun promised => ?_, rfl, fun promised => ?_⟩
  · rcases promised.announced _ rfl with ⟨message, same⟩ | ⟨message, status, same⟩
    · cases same
    · cases same
  · rcases promised.announced _ rfl with ⟨message, same⟩ | ⟨message, status, same⟩
    · cases same
    · cases same

end Web

end Reckoner
