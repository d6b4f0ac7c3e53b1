import Quarry.Config
import Quarry.Customer.Json
import Quarry.Event.Broadcast
import Quarry.UnitOfWork
import Quarry.Validation

/-!
# The customer service

The service registers customers and moves them, and answers questions about them. A customer is
stored only if it satisfies the rules of the service. Every command is one unit of work: if it
cannot be committed, its write is not tried again, while events that could not be published are
published with those of a later command. A directory follows the events and knows the last zip code
of each customer.
-/

namespace Quarry

/-! ## The directory -/

/-- The last zip code of each customer that some `CustomerEvent` has told about. -/
structure ZipDirectory where
  /-- The zip codes by the texts of the identifiers. -/
  zipCodes : SortedMap String (Option String)

namespace ZipDirectory

/-- The directory that knows of no customer. -/
def empty : ZipDirectory := ⟨.empty⟩

/-- The directory after the event in the envelope `e`. Only a move changes a zip code, and an
envelope whose event cannot be read changes nothing. -/
def follow (d : ZipDirectory) (e : Envelope) : ZipDirectory :=
  match (e.readPayload : Except DecodeError CustomerEvent) with
  | .ok (.relocated zipCode _) => ⟨d.zipCodes.insert e.aggregateId zipCode⟩
  | .ok (.registered _ _) | .ok (.noted _ _) =>
    ⟨d.zipCodes.insert e.aggregateId ((d.zipCodes.find? e.aggregateId).getD none)⟩
  | .error _ => d

end ZipDirectory

/-! ## The service -/

/-- Why the service does not do what it is asked to. -/
inductive ServiceError where
  | invalid (cause : ValidationError)
  | repository (cause : RepositoryError)
  | commit (cause : CommitError)
  | argument (cause : ArgumentError)

instance : Reported ServiceError where
  report
    | .invalid cause => Reported.report cause
    | .repository cause => Reported.report cause
    | .commit cause => Reported.report cause
    | .argument cause => Reported.report cause

/-- A service for customers over a repository of type `ρ`. -/
structure CustomerService (ρ : Type) where
  work : UnitOfWork ρ (LimitedBus (BroadcastBus Envelope)) CustomerProfile CustomerEvent
  rules : Validator Customer
  /-- The settings, which bound the sizes of pages. -/
  config : Config
  directory : ZipDirectory

namespace CustomerService

variable {ρ : Type}

/-- The service over `repository`. Its directory listens to the bus from the start. -/
def new (repository : ρ) (ids : IdSource) (rules : Validator Customer) (config : Config) :
    CustomerService ρ where
  work := .new repository ⟨⟨BroadcastBus.empty.subscribe, none⟩, ids⟩
  rules
  config
  directory := .empty

/-- The number of the subscription of the directory, which is the first one. -/
def directorySubscription : Nat := 0

/-- The service with a `limit` on the messages that its bus will take. -/
def limitBus (s : CustomerService ρ) (limit : Option Nat) : CustomerService ρ :=
  { s with work := s.work.withBus { s.work.dispatcher.bus with limit } }

/-- The service after its directory has read what was published, envelope by envelope (`follow`). -/
def refresh (s : CustomerService ρ) : CustomerService ρ :=
  let limited := s.work.dispatcher.bus
  let (envelopes, bus) := limited.bus.drain directorySubscription
  { s with
    work := s.work.withBus { limited with bus }
    directory := envelopes.foldl ZipDirectory.follow s.directory }

variable [Repository ρ CustomerProfile CustomerEvent]

/-- Commits `change` as a single write. If the commit fails, the write is dropped by a rollback. -/
def commit (s : CustomerService ρ) (change : Change CustomerProfile CustomerEvent) :
    Except ServiceError Unit × CustomerService ρ :=
  match (s.work.register change).commit with
  | (.ok _, work) => (.ok (), { s with work })
  | (.error e, work) => (.error (.commit e), { s with work := work.rollback })

/-- Registers `c` at `moment` if it satisfies the rules, with an event for it, and answers with the
identifier. -/
def register (s : CustomerService ρ) (c : Customer) (moment : Timestamp) :
    Except ServiceError EntityId × CustomerService ρ :=
  let c := c.record (.registered c.state.firstName moment)
  match s.rules.validate c with
  | .error e => (.error (.invalid e), s)
  | .ok () =>
    let (outcome, s) := s.commit (.add c)
    (outcome.map fun () => c.id, s)

/-- Moves the customer `id`, whom the caller has seen at the version `seen`, to `zipCode`, and
answers with the new version. -/
def relocate (s : CustomerService ρ) (id : EntityId) (seen : UInt64) (zipCode : Option String)
    (moment : Timestamp) : Except ServiceError UInt64 × CustomerService ρ :=
  match Repository.load s.work.repository id with
  | .error e => (.error (.repository e), s)
  | .ok (c : Customer) =>
    let moved := { c.atVersion seen with state := { c.state with zipCode } }
    match s.commit (.update (moved.record (.relocated zipCode moment))) with
    | (.error e, s) => (.error e, s)
    | (.ok (), s) =>
      match Repository.load s.work.repository id with
      | .error e => (.error (.repository e), s)
      | .ok (c : Customer) => (.ok c.version, s)

/-- A page of the customers with another zip code than `zipCode`, by first name. -/
def outside (s : CustomerService ρ) (zipCode : String) (index size : Option Int64) :
    Except ServiceError (List Customer) := do
  let elsewhere ← (Specification.ofCriterion (.binary .ne "zip_code" (.text zipCode))).mapError
    ServiceError.argument
  let page ← (s.config.page index size).mapError ServiceError.argument
  (Repository.findPaged s.work.repository
    ⟨elsewhere, .byField "first_name" .ascending, page⟩).mapError .repository

/-- The number of customers that pass the stored `filter`. -/
def count (s : CustomerService ρ) (filter : Json) : Except ServiceError Nat := do
  let matching ← (Specification.ofJson filter).mapError ServiceError.argument
  (Repository.count s.work.repository matching).mapError .repository

end CustomerService

end Quarry
