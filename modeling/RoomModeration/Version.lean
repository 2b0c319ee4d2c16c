/-!
# The version

The version that the program tells its users and the homeserver.
-/

namespace RoomModeration

/-- The version of the program. -/
def version : String := "0.3.0"

end RoomModeration
