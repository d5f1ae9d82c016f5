import BucketClient.Settings
import BucketClient.Text.LetterCase

/-!
# Connecting to an S3 service

What a connection is opened with. The client names itself, its version and the platform it runs on to the service.
-/

namespace BucketClient

/-- The version of the library. -/
def version : String := "0.1.0"

/-- The platform that a client runs on. -/
structure Platform where
  system : String := "Linux"
  machine : String := "x86_64"

/-- How a client names itself to a service. -/
def userAgent (platform : Platform) : String :=
  "objstore/" ++ version ++ " (" ++ Text.lower platform.system ++ "; " ++ Text.lower platform.machine ++ ")"

namespace S3

/-- What a connection is opened with. -/
structure Connection where
  endpoint : Value
  region : Value
  accessKeyId : Value
  secretAccessKey : Value
  useSsl : Bool
  addressingStyle : AddressingStyle
  userAgent : String

/-- Opens a connection, provided that the wire library is installed. -/
def connect (installed : Bool) (platform : Platform) (settings : Settings) : Except Failure Connection :=
  if installed then
    .ok {
      endpoint := settings.endpoint
      region := settings.region
      accessKeyId := settings.accessKeyId
      secretAccessKey := settings.secretAccessKey
      useSsl := settings.useSsl.truth
      addressingStyle := settings.addressingStyle
      userAgent := BucketClient.userAgent platform
    }
  else .error .notInstalled

end S3

end BucketClient
