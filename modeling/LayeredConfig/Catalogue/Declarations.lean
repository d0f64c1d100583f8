import LayeredConfig.Catalogue.Scalars

/-!
# Declared types

Records and enumerations that exercise every way of declaring one: renamed and renamed-all fields,
replaced, flattened and skipped fields, defaults, records of items, recursion and alternatives.
-/
set_option autoImplicit false

namespace LayeredConfig.Catalogue

open Snapshot

def retry : Record where
  fields := [optional "attempts" (unsigned 32), optional "backoff_ms" (unsigned 64)]

def blankRetry : Value := .product [.absent, .absent]

def optionalRetry (name : String) : Field :=
  optional name (.named "retry")

def sample : Record where
  fields :=
    [ field "enabled" bool
    , field "name" text
    , optional "count" (signed 64)
    , field "labels" (mapOf text)
    , optional "tags" (.sequence text)
    , optionalRetry "retry"
    , field "slots" (.array 3 (.option (unsigned 8)))
    , renamed "extra" (field "extras" (mapOf (signed 32))) ]
  naming := some .camel

def delivery : Record where
  fields := [optional "channel" text, optional "batch" (unsigned 32)]

/-- Notification settings, with a pair of hours that is never mixed from two layers. -/
def notifications : Record where
  fields :=
    [ field "enabled" bool
    , optional "max_per_hour" (unsigned 32)
    , optional "delivery" (.named "delivery")
    , field "labels" (mapOf text)
    , field "recipients" (.sequence text)
    , replaced (optional "quiet_hours" (.tuple [unsigned 8, unsigned 8])) ]
  naming := some .camel

def limits : Record where
  fields := [optional "daily" (unsigned 32)]

def settings : Record where
  fields :=
    [ field "enabled" bool
    , renamed "displayName" (optional "display_name" text)
    , field "labels" (mapOf text)
    , field "tags" (.sequence text)
    , optional "limits" (.named "limits") ]

def billing : Record where
  fields :=
    [optional "currency" text, optional "limit" (unsigned 32), optional "invoice_email" text]

def labels : Ty := .newtype (mapOf (.option text))

def pinned : Ty := .newtype (.replaced (mapOf (signed 64)))

def pair : Record :=
  itemRecord [optional "0" (unsigned 8), optionalRetry "1"]

def blankPair : Value := .product [.absent, .absent]

def triple : Record :=
  itemRecord [optionalRetry "0", replaced (optionalRetry "1"), field "2" (mapOf (signed 64))]

def tuning : Record where
  fields := [optional "level" (unsigned 8), optional "note" text]

def mode : List Alternative :=
  [ ⟨"fast", .nothing⟩
  , ⟨"safe", .nothing⟩
  , ⟨"tuned", .fields (.named "tuning")⟩
  , ⟨"pair", .value (.tuple [unsigned 8, unsigned 8])⟩ ]

def blankMode : Value := .variant "fast" (.product [])

def wrapper (type : Ty) (blank : Value) : Record where
  fields := [{ name := "inner", type, blank }, field "others" (.sequence type)]

def kitchen : Record where
  fields :=
    [ optional "type" text
    , field "home_dir" text
    , optional "log_path" text
    , optional "time_out" duration
    , optional "ratio" double
    , optional "small_ratio" single
    , optional "letter" character
    , optional "tiny" (signed 8)
    , optional "big" (unsigned 64)
    , optional "wide" (signed 128)
    , field "nothing" unit
    , optional "mode" (.named "mode")
    , field "labels" labels
    , nested "pair" "pair" blankPair
    , optional "marker" unit
    , optional "boxed" (.box (.named "retry"))
    , field "plans" (mapOf (.named "retry"))
    , field "stages" (.sequence (.named "retry"))
    , field "ports" (.map (.int (.unsigned 16)) (.option text))
    , field "extra_json" .json
    , replaced (optionalRetry "frozen")
    , withPresence .skipped (field "cache" (unsigned 8)) ]
  naming := some .kebab
  defaulted := true

/-- Two fields, each under the name of the other. -/
def swapped : Record where
  fields :=
    [ renamed "right" (optionalRetry "left")
    , renamed "left" (optional "right" (mapOf (signed 64)))
    , renamed "out" (optional "inner" (signed 64)) ]

/-- Names whose two keys differ. -/
def mismatch : Record where
  fields :=
    [ optional "_hidden" (signed 64)
    , optional "fooBar" (signed 64)
    , optionalRetry "trailing_"
    , optional "plain_name" (signed 64) ]
  naming := some .snake
  defaulted := true

def skippy : Record where
  fields :=
    [ withPresence (.sometimes Value.isUnset) (optional "note" text)
    , withPresence (.sometimes Value.isEmptyMap) (field "labels" (mapOf text))
    , withPresence .readOnly (optional "secret" text)
    , withPresence (.sometimes Value.isUnset) (optionalRetry "retry")
    , optional "level" (signed 64) ]
  defaulted := true

def flat : Record where
  fields :=
    [ optional "id" text
    , withPresence .flattened (nested "retry" "retry" blankRetry)
    , withPresence .flattened (field "rest" (mapOf .json)) ]

def tree : Record where
  fields :=
    [ optional "value" (signed 64)
    , optional "child" (.box (.named "tree"))
    , field "kids" (mapOf (.named "tree")) ]
  defaulted := true

def version : Record where
  fields := [field "major" (unsigned 8), field "minor" (unsigned 8)]
  form := .dotted

def release : Record where
  fields := [optional "version" (.named "version"), field "build" (unsigned 8)]

/-- A number that cannot be written while it is negative. -/
def fragile : Record where
  fields := [field "n" writtenUnlessNegative, optional "tag" text]

def tally : Record where
  fields := [optional "label" text, optional "depth" (unsigned 32)]

def blind : Record where
  fields := [optional "v" (signed 64)]

def declarations : Declarations
  | "retry" => some (.record retry)
  | "sample" => some (.record sample)
  | "delivery" => some (.record delivery)
  | "notifications" => some (.record notifications)
  | "limits" => some (.record limits)
  | "settings" => some (.record settings)
  | "billing" => some (.record billing)
  | "pair" => some (.record pair)
  | "triple" => some (.record triple)
  | "tuning" => some (.record tuning)
  | "mode" => some (.enumeration mode blankMode .external)
  | "wrap_u32" => some (.record (wrapper (.option (unsigned 32)) .absent))
  | "wrap_retry" => some (.record (wrapper (.named "retry") blankRetry))
  | "kitchen" => some (.record kitchen)
  | "swapped" => some (.record swapped)
  | "mismatch" => some (.record mismatch)
  | "skippy" => some (.record skippy)
  | "flat" => some (.record flat)
  | "tree" => some (.record tree)
  | "version" => some (.record version)
  | "release" => some (.record release)
  | "fragile" => some (.record fragile)
  | "tally" => some (.record tally)
  | "blind" => some (.record blind)
  | _ => none

end LayeredConfig.Catalogue
