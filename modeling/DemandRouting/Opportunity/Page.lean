import DemandRouting.OpenRtb.Request
import DemandRouting.Text.Blank
import DemandRouting.Url.Parse

namespace DemandRouting

open Text

inductive PageType where
  | article
  | homepage
  | category
  | search
  | video
  -- a label with a meaning of its own
  | other (label : String)
deriving DecidableEq, Repr

namespace PageType

def ofLabel (label : String) : PageType :=
  let label := lowerAscii (trim label)
  if label ∈ ["article", "news", "post"] then .article
  else if label ∈ ["homepage", "home"] then .homepage
  else if label ∈ ["section", "category"] then .category
  else if label = "search" then .search
  else if label ∈ ["video", "watch"] then .video
  else .other label

def ofPath? (path : String) : Option PageType :=
  let path := lowerAscii path
  if mentionsAny path ["/article", "/news", "/post"] then some .article
  else if path.isEmpty || path.toList.getLast? == some '/' then some .homepage
  else if mentionsAny path ["/category", "/section"] then some .category
  else if mentions path "/search" then some .search
  else if mentionsAny path ["/video", "/watch"] then some .video
  else none

def ofAddress? (address : String) : Option PageType :=
  match Url.parse address with
  | .ok url => ofPath? (String.ofList url.path)
  | .error _ => none

-- An explicit label, unless it is blank, outranks the address.
def ofSite? (site : OpenRtb.Site) : Option PageType :=
  let label := site.ext.bind (·.data) |>.bind (·.pagetype) |>.bind nonBlank?
  match label with
  | some label => some (ofLabel label)
  | none => site.page.bind ofAddress?

end PageType
end DemandRouting
