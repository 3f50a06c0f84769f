import Mathlib.Data.List.Forall2
import RequestDispatch.Config.Store

/-! # Settings in two layers

The settings of a handler mapping are read from the table under one key of the store, over which
four keys of the store itself are laid. So nothing else in the store counts: each field is the value
of its own key in the store, or else that of the table, or else the default. What is read is checked
before it is returned. -/
namespace RequestDispatch

/-- The field is decoded from the value, where there is one, and is the default otherwise. -/
def Decoder.Reads {α : Type} (decode : Decoder α) (default : α) (v? : Option Value) (a : α) :
    Prop :=
  v?.elim (a = default) fun v => decode v = some a

def NamingSetting.decode? : Decoder NamingSetting :=
  Decoder.choice [("none", .none), ("initials", .initials)]

/-! ### Decoding by fields -/

structure CorsSettings.ReadsFrom (value? : String → Option Value) (settings : CorsSettings) :
    Prop where
  origins : Decoder.text.list.Reads ({} : CorsSettings).origins (value? "allowed_origins")
    settings.origins
  patterns : Decoder.text.list.Reads ({} : CorsSettings).patterns
    (value? "allowed_origin_patterns") settings.patterns
  methods : Decoder.text.list.Reads ({} : CorsSettings).methods (value? "allowed_methods")
    settings.methods
  headers : Decoder.text.list.Reads ({} : CorsSettings).headers (value? "allowed_headers")
    settings.headers
  exposed : Decoder.text.list.Reads ({} : CorsSettings).exposed (value? "exposed_headers")
    settings.exposed
  credentials : Decoder.bool.Reads ({} : CorsSettings).credentials (value? "allow_credentials")
    settings.credentials
  maxAge : (Decoder.word 64).optional.Reads ({} : CorsSettings).maxAge? (value? "max_age")
    settings.maxAge?

/-- An entry of the CORS table: settings under a path pattern, read from the fields of a record. -/
def CorsSettings.ReadsEntry (given : String × Value) (read : String × CorsSettings) : Prop :=
  read.1 = given.1 ∧ ∃ fields, Decoder.fields fieldNames given.2 = some fields ∧
    read.2.ReadsFrom (Value.field? fields)

structure MappingSettings.ReadsFrom (value? : String → Option Value) (settings : MappingSettings) :
    Prop where
  ancestors : Decoder.bool.Reads ({} : MappingOptions).ancestors
    (value? "detect_in_ancestor_contexts") settings.options.ancestors
  decode : Decoder.bool.Reads ({} : MappingOptions).decode (value? "url_decode")
    settings.options.decode
  naming : NamingSetting.decode?.Reads .none (value? "naming") settings.naming
  cors : (value? "cors").elim (settings.cors = []) fun v => ∃ given, v = .object given ∧
    List.Forall₂ CorsSettings.ReadsEntry given settings.cors
  logLevel : Decoder.text.optional.Reads none (value? "log_level") settings.logLevel?

namespace Store

variable {s t : Store} {nested : List (String × Value)} {key : String}

/-! ### Keys of the store over fields of the table -/

end Store

end RequestDispatch
