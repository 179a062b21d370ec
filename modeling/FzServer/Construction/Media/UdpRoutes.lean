import FzServer.Construction.Rtsp.RequestParser

/-
This file says from where and to where the two media threads send their datagrams.
-/

namespace FzServer.Media

open Sessions Rtsp

end FzServer.Media
