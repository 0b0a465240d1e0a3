/-!
# Host functions

The eight functions that a guest may call. Their arguments are words of thirty-two bits, read without
sign.
-/
namespace FormatHost

/-- A call of a host function. -/
inductive HostCall where
  | clearBytes (length : Nat)
  | readBuffer (pointer length : Nat)
  | writeBuffer (pointer offset length : Nat)
  | takeOverrideConfig
  | takeFilePath
  | format
  | getFormattedText
  | getErrorText
  deriving DecidableEq, Repr

/-- The name of a host function, the number of its parameters and whether it has a result. -/
structure HostSignature where
  name : String
  parameters : Nat
  hasResult : Bool
  deriving DecidableEq, Repr

namespace HostCall

/-- The module under which guests import the host functions. -/
def moduleName : String := "dprint"

/-- The signatures in the order of their definition. -/
def signatures : List HostSignature := [
  ⟨"host_clear_bytes", 1, false⟩,
  ⟨"host_read_buffer", 2, false⟩,
  ⟨"host_write_buffer", 3, false⟩,
  ⟨"host_take_override_config", 0, false⟩,
  ⟨"host_take_file_path", 0, false⟩,
  ⟨"host_format", 0, true⟩,
  ⟨"host_get_formatted_text", 0, true⟩,
  ⟨"host_get_error_text", 0, true⟩]

/-- An integer as an unsigned word. -/
def word (n : Int) : Nat := (n % 0x100000000).toNat

/-- The call of a name with arguments, if there is a function of that name and arity. -/
def ofName? (name : String) (arguments : List Int) : Option HostCall :=
  match name, arguments with
  | "host_clear_bytes", [length] => some (clearBytes (word length))
  | "host_read_buffer", [pointer, length] => some (readBuffer (word pointer) (word length))
  | "host_write_buffer", [pointer, offset, length] =>
    some (writeBuffer (word pointer) (word offset) (word length))
  | "host_take_override_config", [] => some takeOverrideConfig
  | "host_take_file_path", [] => some takeFilePath
  | "host_format", [] => some format
  | "host_get_formatted_text", [] => some getFormattedText
  | "host_get_error_text", [] => some getErrorText
  | _, _ => none

end HostCall

end FormatHost
