import BucketClient.Argument
import BucketClient.S3.Connection
import BucketClient.Upload

/-!
# About the library

The names under which the library offers itself to its callers.
-/

namespace BucketClient.About

/-- The names that are offered, in order. -/
def publicNames : List String :=
  ["API", "BucketAPI", "BucketMetadata", "ChunkReadError", "IncompleteUploadError", "InvalidArgumentError",
    "ItemStream", "ObjectAPI", "ObjectMetadata", "ObjectStorage", "ObjectStorageError", "StorageError",
    "StreamedItem", "new"]

/-- The least number of bytes that a service takes for a part but the last. -/
def minPartSize : Int := defaultPartSize

end BucketClient.About
