import SurveilOne.Dart.Value

/-!
# Image addresses

`buildImageBase` and `normalizeImageUrl` of `image_url.dart`.
-/

namespace SurveilOne

open Dart

def kDefaultImageHost : Text := "http://35.182.97.114".toList

/-- `siteName.trim()` without its leading and trailing slashes. -/
def siteDirectory (siteName : Text) : Text :=
  (siteName.trim.dropWhile (· = '/')).rdropWhile (· = '/')

def buildImageBase (imageHost siteName : Text) : Text :=
  let host := if Text.endsWith imageHost ['/'] then imageHost.take (imageHost.length - 1) else imageHost
  host ++ "/images/".toList ++ siteDirectory siteName ++ ['/']

/-- What follows `/images/`, without a leading site directory. -/
def stripSite (siteName after : Text) : Text :=
  if Text.startsWith after (siteName ++ ['/']) then
    Text.substring after (siteName ++ ['/']).length
  else after

def isAbsolute (u : Text) : Bool :=
  Text.startsWith u "http://".toList || Text.startsWith u "https://".toList

def normalizeImageUrl (url : Option Text) (imageHost siteName : Text) : Option Text :=
  match url with
  | none => none
  | some url =>
    let u := url.trim
    if u.isEmpty then none
    else
      let base := buildImageBase imageHost siteName
      if isAbsolute u then
        match Text.indexOf "/images/".toList u with
        | some idx =>
          let after := Text.substring u (idx + "/images/".toList.length)
          some (base ++ stripSite siteName after)
        | none => some u
      else if Text.startsWith u "/images/".toList then
        let after := Text.substring u "/images/".toList.length
        some (base ++ stripSite siteName after)
      else some (base ++ u)

end SurveilOne
