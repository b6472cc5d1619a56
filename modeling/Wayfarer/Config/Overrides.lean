import Wayfarer.Config.Settings

/-!
Settings put together by hand.

* `Overrides`: a value for some of the fields;
* `Overrides.applyTo`: settings with those values laid over them;
* `Overrides.build`: settings built of those values, section by section;
* `Overrides.settings`: the settings with all sections built.
-/

namespace Wayfarer

/-- A value for some of the fields of the settings. -/
structure Overrides where
  redirectEnabled : Option Bool := none
  maxHops : Option UInt32 := none
  priorityAdjust : Option Int := none
  countdown : Option Bool := none
  refreshEnabled : Option Bool := none
  maxDelay : Option Binary64 := none
  ignoredTags : Option (List String) := none
  httpProxy : Option String := none
  httpsProxy : Option String := none
  exempt : Option (List String) := none
  fromEnvironment : Option Bool := none
  connectTimeout : Option Nat := none
  timeout : Option Nat := none
  userAgent : Option String := none
deriving Repr, DecidableEq

namespace Overrides

/-! ### Values laid over settings -/

/-- The settings for redirects with some values put in. -/
def redirect (o : Overrides) (s : RedirectSettings) : RedirectSettings where
  enabled := o.redirectEnabled.getD s.enabled
  maxHops := o.maxHops.getD s.maxHops
  priorityAdjust := o.priorityAdjust.getD s.priorityAdjust
  countdown := o.countdown.getD s.countdown

/-- The settings for refresh directives with some values put in. -/
def refresh (o : Overrides) (s : RefreshSettings) : RefreshSettings where
  enabled := o.refreshEnabled.getD s.enabled
  maxDelay := o.maxDelay.getD s.maxDelay
  ignoredTags := o.ignoredTags.getD s.ignoredTags

/-- The settings for proxies with some values put in. -/
def proxy (o : Overrides) (s : ProxySettings) : ProxySettings where
  http := o.httpProxy.or s.http
  https := o.httpsProxy.or s.https
  exempt := o.exempt.getD s.exempt
  fromEnvironment := o.fromEnvironment.getD s.fromEnvironment

/-- The settings for sending with some values put in. -/
def transport (o : Overrides) (s : TransportSettings) : TransportSettings where
  connectTimeout := o.connectTimeout.getD s.connectTimeout
  timeout := o.timeout.getD s.timeout
  userAgent := o.userAgent.or s.userAgent

/-- The settings with some values put in. -/
def applyTo (o : Overrides) (s : Settings) : Settings where
  redirect := o.redirect s.redirect
  refresh := o.refresh s.refresh
  proxy := o.proxy s.proxy
  transport := o.transport s.transport

/-! ### Sections built of values -/

/-- The settings for redirects built of the values that are given. -/
def buildRedirect (o : Overrides) : RedirectSettings where
  enabled := o.redirectEnabled.getD Unset.enabled
  maxHops := o.maxHops.getD Unset.maxHops
  priorityAdjust := o.priorityAdjust.getD Unset.priorityAdjust
  countdown := o.countdown.getD Unset.enabled

/-- The settings for refresh directives built of the values that are given. -/
def buildRefresh (o : Overrides) : RefreshSettings where
  enabled := o.refreshEnabled.getD Unset.enabled
  maxDelay := o.maxDelay.getD Unset.maxDelay
  ignoredTags := o.ignoredTags.getD Unset.ignoredTags

/-- The settings for proxies built of the values that are given. -/
def buildProxy (o : Overrides) : ProxySettings where
  http := o.httpProxy
  https := o.httpsProxy
  exempt := o.exempt.getD []
  fromEnvironment := o.fromEnvironment.getD false

/-- The settings for sending built of the values that are given. -/
def buildTransport (o : Overrides) : TransportSettings where
  connectTimeout := o.connectTimeout.getD Unset.connectTimeout
  timeout := o.timeout.getD Unset.timeout
  userAgent := o.userAgent

/-- The settings with some sections built, and the default ones for the others. -/
def build (o : Overrides) (built : Settings.Section → Bool) : Settings where
  redirect := if built .redirect then o.buildRedirect else {}
  refresh := if built .refresh then o.buildRefresh else {}
  proxy := if built .proxy then o.buildProxy else {}
  transport := if built .transport then o.buildTransport else {}

/-- The settings with all sections built. -/
def settings (o : Overrides) : Settings :=
  o.build fun _ => true

end Overrides

end Wayfarer
