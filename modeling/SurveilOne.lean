import SurveilOne.Alerts.Agree
import SurveilOne.Alerts.Tiles
import SurveilOne.App.Afterwards
import SurveilOne.App.Identity
import SurveilOne.App.Late
import SurveilOne.App.Licensed
import SurveilOne.App.Separated
import SurveilOne.App.SessionSpec
import SurveilOne.App.SignIns
import SurveilOne.App.SignUps
import SurveilOne.App.WayOut
import SurveilOne.Credentials
import SurveilOne.Forms
import SurveilOne.Licences
import SurveilOne.Lifecycle
import SurveilOne.Picture
import SurveilOne.SignInResponse
import SurveilOne.Spellings
import SurveilOne.Status.Consistent
import SurveilOne.Status.Drawn
import SurveilOne.Status.Latest
import SurveilOne.Status.Siblings
