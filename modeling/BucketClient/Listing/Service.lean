import BucketClient.Argument
import BucketClient.Listing.Walk
import BucketClient.Settings

/-!
# Listings of a service

The two listings that a client opens: the objects of a bucket, page by page, and the buckets of the caller, at once.
Each fetched page is counted.
-/

namespace BucketClient.Listing

variable {σ : Type}

/-- Counts a fetched page. -/
def countPage (settings : Settings) (listed : Listed) (o : Observed σ) : Observed σ :=
  o.count settings.counts (.pages listed) 1

/-- Fetches a page of the objects of a bucket. -/
def fetchObjects (t : Transport σ) (settings : Settings) (bucket stem marker delimiter : String) (o : Observed σ) :
    Except Failure (Page String (Option ObjectInfo)) × Observed σ :=
  match o.perform t (.listObjects bucket (some settings.maxKeys) (some marker) (some stem) (some delimiter)) with
  | (.ok page, o) =>
    (.ok ⟨page.entries.map some, page.truncated, page.nextMarker⟩, countPage settings .objects o)
  | (.error e, o) => (.error e, o)

/-- Fetches the buckets of the caller. -/
def fetchBuckets (t : Transport σ) (settings : Settings) (o : Observed σ) :
    Except Failure (List (Option BucketInfo)) × Observed σ :=
  match o.perform t .listBuckets with
  | (.ok buckets, o) => (.ok (buckets.map some), countPage settings .buckets o)
  | (.error e, o) => (.error e, o)

/-- The walk through the objects of a bucket whose keys start with a stem. -/
def objects (t : Transport σ) (settings : Settings) (bucket stem : String) (recursive : Bool) :
    Walk σ String ObjectInfo :=
  .pages recursive (fun entry => .ok entry.key) (fetchObjects t settings bucket stem)

/-- The walk through the buckets of the caller. -/
def buckets (t : Transport σ) (settings : Settings) : Walk σ Unit BucketInfo :=
  .whole (fetchBuckets t settings)

end BucketClient.Listing
