/-!
# `TenantApps.Text.Utf8` — UTF-8

Bodies and header values are bytes, everything else is text.

## Contents
- `bytes` and its partial inverse `ofBytes?` (`ofBytes?_bytes`).
-/

namespace TenantApps.Utf8

/-- The UTF-8 bytes of a string. -/
def bytes (s : String) : List UInt8 := s.toUTF8.data.toList

/-- The string of well-formed UTF-8 bytes. -/
def ofBytes? (bs : List UInt8) : Option String := String.fromUTF8? bs.toByteArray

theorem ofBytes?_bytes (s : String) : ofBytes? (bytes s) = some s := by
  have h : (bytes s).toByteArray = s.toUTF8 := by
    apply ByteArray.ext
    rw [List.data_toByteArray, bytes, Array.toArray_toList]
  unfold ofBytes? String.fromUTF8?
  rw [h, String.toUTF8_eq_toByteArray, dif_pos s.isValidUTF8]
  rfl

end TenantApps.Utf8
