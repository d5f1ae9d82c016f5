import BucketClient.Feed.Basic

/-!
# Walking through pages

A listing is served page by page. The walk fetches a page, hands its entries over one by one, and only then fetches
the next one. A walk that is not recursive fetches one page with the delimiter of directories and stops after it,
whatever the page says. A recursive walk goes on while pages are truncated, each time from the key of the last entry,
or from the page's own marker when the page has no entries. A walk is free in what it takes for markers (`μ`), but one
that is blank leads to no page.

The first thing that goes wrong ends the walk: a failed fetch and a truncated page without a marker hand the failure
over as the last item; an absent entry and a failing key make the producer itself fail.
-/

namespace BucketClient

/-- The delimiter under which entries below a directory are left out. -/
def directoryDelimiter : String := "/"

/-- What a walk needs to know: where pages start, how to fetch a page from a marker, and how to name an entry. -/
structure Walk (σ μ α : Type) where
  /-- The marker of the first page. -/
  start : μ
  /-- Whether a marker leads to no page. -/
  isBlank : μ → Bool
  /-- Whether all pages are walked through, or the first one only. -/
  recursive : Bool
  /-- Fetches the page after a marker, under a delimiter. -/
  fetch : (marker : μ) → (delimiter : String) → Observed σ → Except Failure (Page μ (Option α)) × Observed σ
  /-- The key of an entry, from which the page after it is fetched. -/
  key : α → Except Failure μ
  /-- The log record of a failed fetch from a marker. -/
  complaint : (marker : μ) → Failure → Log.Record

namespace Walk

/-- Where a walk stands. -/
inductive Stage (μ α : Type) where
  /-- About to fetch the page after a marker. -/
  | fetching (marker : μ)
  /-- About to hand over the entries that are left of a page. -/
  | emitting (left : List (Option α)) (page : Page μ (Option α))
  /-- About to hand over a failure and finish. -/
  | ending (error : Failure)
  /-- About to fail. -/
  | failing (error : Failure)
  | finished

variable {σ μ α : Type}

/-- The delimiter of a walk. -/
def delimiter (walk : Walk σ μ α) : String :=
  if walk.recursive then "" else directoryDelimiter

/-- The marker of the page after a page: the key of its last entry, or its own marker when it has none. -/
def markerAfter (walk : Walk σ μ α) (page : Page μ (Option α)) : Except Failure μ :=
  match page.entries.getLast? with
  | some (some entry) => walk.key entry
  | some none => .error (.value .emptyItem)
  | none => .ok page.nextMarker

/-- The stage after all entries of a page have been handed over. -/
def afterPage (walk : Walk σ μ α) (page : Page μ (Option α)) : Stage μ α :=
  if walk.recursive && page.truncated then
    match walk.markerAfter page with
    | .error e => .failing e
    | .ok marker => if walk.isBlank marker then .ending (.storage .missingMarker) else .fetching marker
  else .finished

/-- Fetches the page after a marker; a failed fetch is logged. -/
def fetchPage (walk : Walk σ μ α) (marker : μ) (o : Observed σ) : Stage μ α × Observed σ :=
  match walk.fetch marker walk.delimiter o with
  | (.ok page, o) => (.emitting page.entries page, o)
  | (.error e, o) => if e.isInterrupt then (.failing e, o) else (.ending e, o.log (walk.complaint marker e))

/-- The producer of a walk. -/
def producer (walk : Walk σ μ α) : Producer σ (Stage μ α) α
  | .fetching marker => .work (walk.fetchPage marker)
  | .emitting [] page => .work fun o => (walk.afterPage page, o)
  | .emitting (none :: _) _ => .fail (.value .emptyItem)
  | .emitting (some entry :: left) page =>
    .offer (.value entry) fun accepted => if accepted then .emitting left page else .finished
  | .ending error => .offer (.failure error) fun _ => .finished
  | .failing error => .fail error
  | .finished => .finish

/-- The feed of a walk, at its start. -/
def feed (walk : Walk σ μ α) : Feed (Stage μ α) α :=
  .start (.fetching walk.start)

/-- The log record of a page that could not be fetched. -/
def pageComplaint (marker : Value) (error : Failure) : Log.Record where
  logger := Feed.logger
  level := Log.Level.warning.number
  template := "list_page_failed marker=%s error=%s"
  args := [marker, .text error.message]

/-- The log record of an unpaged listing that could not be fetched. -/
def listComplaint (error : Failure) : Log.Record where
  logger := Feed.logger
  level := Log.Level.warning.number
  template := "list_failed error=%s"
  args := [.text error.message]

/-- The walk through pages that are fetched from markers that are texts. -/
def pages (recursive : Bool) (key : α → Except Failure String)
    (fetch : (marker delimiter : String) → Observed σ → Except Failure (Page String (Option α)) × Observed σ) :
    Walk σ String α where
  start := ""
  isBlank := String.isEmpty
  recursive := recursive
  fetch := fetch
  key := key
  complaint := fun marker => pageComplaint (.text marker)

/-- The walk through pages that are fetched from markers of any shape; one that counts as false is blank. -/
def loosePages (recursive : Bool) (key : α → Except Failure Value)
    (fetch : (marker : Value) → (delimiter : String) → Observed σ →
      Except Failure (Page Value (Option α)) × Observed σ) : Walk σ Value α where
  start := .text ""
  isBlank := fun marker => !marker.truth
  recursive := recursive
  fetch := fetch
  key := key
  complaint := pageComplaint

/-- The walk through a listing that is fetched at once, without markers. -/
def whole (fetch : Observed σ → Except Failure (List (Option α)) × Observed σ) : Walk σ Unit α where
  start := ()
  isBlank := fun _ => true
  recursive := false
  fetch := fun _ _ o =>
    let (outcome, o) := fetch o
    (outcome.map fun entries => { entries := entries, nextMarker := () }, o)
  key := fun _ => .ok ()
  complaint := fun _ => listComplaint

end Walk

end BucketClient
